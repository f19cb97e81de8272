import ArioSolana.GarFunding

/-!
# What becomes of a withdrawal

An instruction leaves a withdrawal alone, creates it with its lock, draws on it, or closes it. It
closes one whose time has come, one that is not protected, an empty one, or one of a gateway that is
joined. A gateway that is leaving stays so for the leave period at least. None of this needs an
invariant of the state.
-/

namespace ArioSolana
namespace Gar

open Checked Solana

variable {env : Env} {s s' s'' : State} {k u : Pubkey} {id : WithdrawalId} {i : Instruction}
  {now : ℤ} {g g' : Gateway} {clock : Clock} {draws : Pubkey → WithdrawalId → Prop}

/-! ### Leaving gateways -/

/-- Since when a gateway has been leaving. -/
def Gateway.leavingSince (g : Gateway) : Option ℤ :=
  if g.status = .leaving then g.leaveTimestamp else none

/-- Since when the gateway at `k` has been leaving. -/
def State.leavingSince (s : State) (k : Pubkey) : Option ℤ := (s.gateways k).bind (·.leavingSince)

/-- The gateways are as much leaving as before. -/
def SameLeaving (s s' : State) : Prop := s'.leavingSince = s.leavingSince

namespace SameLeaving

lemma refl (s : State) : SameLeaving s s := rfl

lemma trans (h : SameLeaving s s') (h' : SameLeaving s' s'') : SameLeaving s s'' := Eq.trans h' h

lemma of_eq (h : s'.gateways = s.gateways) : SameLeaving s s' := by
  funext k
  rw [State.leavingSince, State.leavingSince, h]

lemma of_update (hg : s.gateways k = some g)
    (hs' : s'.gateways = Function.update s.gateways k (some g'))
    (h : g'.leavingSince = g.leavingSince) : SameLeaving s s' := by
  funext j
  rw [State.leavingSince, State.leavingSince, hs']
  by_cases hj : j = k
  · subst hj
    rw [Function.update_self, hg]
    exact h
  · rw [Function.update_of_ne hj]

lemma of_two {j : Pubkey} {x x' : Gateway} (hne : j ≠ k) (hg : s.gateways k = some g)
    (hx : s.gateways j = some x)
    (hs' : s'.gateways = Function.update (Function.update s.gateways k (some g')) j (some x'))
    (h : g'.leavingSince = g.leavingSince) (h' : x'.leavingSince = x.leavingSince) :
    SameLeaving s s' := by
  have hmid : SameLeaving s { s with gateways := Function.update s.gateways k (some g') } :=
    .of_update hg rfl h
  have hxmid : Function.update s.gateways k (some g') j = some x :=
    (Function.update_of_ne hne ..).trans hx
  exact hmid.trans (.of_update hxmid hs' h')

end SameLeaving

lemma leavingSince_of_shell (h : g'.shell = g.shell) : g'.leavingSince = g.leavingSince := by
  have hstatus := congrArg Shell.status h
  have hleave := congrArg Shell.leaveTimestamp h
  simp only [Gateway.shell] at hstatus hleave
  rw [Gateway.leavingSince, Gateway.leavingSince, hstatus, hleave]

lemma tallyBatch_leaving {settings : EpochSettings} {epoch epoch' : Epoch}
    {infos : List AccountMeta} (h : tallyBatch settings infos (s, epoch) = .ok (s', epoch')) :
    SameLeaving s s' := by
  induction infos generalizing s epoch with
  | nil =>
    obtain ⟨rfl, -⟩ := Prod.mk.inj (pure_eq_ok.mp h)
    exact .refl _
  | cons info infos ih =>
    unfold tallyBatch at h
    split at h
    · simp only [bind_eq_ok, Prod.exists] at h
      obtain ⟨s₁, e₁, h₁, h⟩ := h
      refine SameLeaving.trans ?_ (ih h)
      obtain ⟨-, ⟨-, rfl, -⟩ | ⟨g, weights, weight, hg, -, -, -, -, -, rfl, -⟩⟩ := tallySlot_ok h₁
      · exact .refl _
      · exact .of_update hg rfl rfl
    · obtain ⟨rfl, -⟩ := Prod.mk.inj (pure_eq_ok.mp h)
      exact .refl _

lemma payBatch_leaving {total transfer : ℕ} {xs : List PendingDistribution}
    {payout payout' : Payout}
    (hxs : ∀ x ∈ xs, s.gateways x.gateway.operator = some x.gateway)
    (hG : SameLeaving s payout.state) (hrest : ∃ G, payout.state = { s with gateways := G })
    (h : payBatch total transfer xs payout = .ok payout') :
    SameLeaving s payout'.state ∧ ∃ G, payout'.state = { s with gateways := G } := by
  induction xs generalizing payout with
  | nil =>
    obtain rfl := pure_eq_ok.mp h
    exact ⟨hG, hrest⟩
  | cons x xs ih =>
    simp only [payBatch, bind_eq_ok] at h
    obtain ⟨p₁, h₁, h⟩ := h
    obtain ⟨payment, hpay, hstate, -⟩ := payPending_ok h₁
    obtain ⟨stake, cum, hgw⟩ := payGateway_gateway hpay
    have hx := hxs x List.mem_cons_self
    obtain ⟨G, hG'⟩ := hrest
    refine ih (fun y hy => hxs y (List.mem_cons_of_mem _ hy)) ?_ ⟨_, by rw [hstate, hG']; rfl⟩ h
    funext j
    rw [hstate, State.setGateway, hgw]
    by_cases hj : j = x.gateway.operator
    · subst hj
      simp only [State.leavingSince, Function.update_self, hx]
      rfl
    · simp only [State.leavingSince, Function.update_of_ne hj]
      exact congrFun hG j


/-! ### One withdrawal -/

/-- The instruction is a funding plan that draws on the withdrawal `id` of `u`. -/
def Instruction.DrawsOn (i : Instruction) (u : Pubkey) (id : WithdrawalId) : Prop :=
  match i with
  | .payFromFundingPlan _ _ _ _ remaining sources _ _ =>
    0 < drawnFrom (namedAccounts sources remaining) (.withdrawal u id)
  | _ => False

/-- A withdrawal with the lock that it gets when it is created. -/
structure Withdrawal.Born (w : Withdrawal) (now period : ℤ) : Prop where
  created : w.createdAt = now
  lock : 0 < w.amount → w.availableAt = now + if w.isProtected then gatewayLeavePeriod else period

/-- What a step at the time `now` does to the withdrawal `id` of `u`, when it draws on the protected
withdrawals of `draws`. -/
inductive VaultChange (draws : Pubkey → WithdrawalId → Prop) (now : ℤ) (s s' : State) (u : Pubkey)
    (id : WithdrawalId) : Prop
  | same (same : s'.withdrawals (u, id) = s.withdrawals (u, id))
  | created {w : Withdrawal} (absent : s.withdrawals (u, id) = none)
      (present : s'.withdrawals (u, id) = some w) (next : nextIdOf s u ≤ id.val)
      (counted : id.val < nextIdOf s' u) (born : w.Born now s.settings.withdrawalPeriod)
      (exit : w.isProtected = true →
        0 < w.amount ∧ w.availableAt < 2 ^ 63 ∧ s'.leavingSince w.gateway = some now)
  | drawn {w : Withdrawal} {n : ℕ} (was : s.withdrawals (u, id) = some w) (covered : n ≤ w.amount)
      (left : s'.withdrawals (u, id) = some { w with amount := w.amount - n })
      (gate : w.isProtected = true → draws u id)
  | closed {w : Withdrawal} (was : s.withdrawals (u, id) = some w)
      (gone : s'.withdrawals (u, id) = none)
      (reason : w.availableAt ≤ now ∨ w.isProtected = false ∨ w.amount = 0 ∨
        ∃ g, s.gateways w.gateway = some g ∧ g.status = .joined)

/-- What a step does to the withdrawals, and to the gateways that are leaving. -/
structure VaultStep (draws : Pubkey → WithdrawalId → Prop) (now : ℤ) (s s' : State) : Prop where
  vault : ∀ u id, VaultChange draws now s s' u id
  leaving : ∀ k t, s.leavingSince k = some t →
    s'.leavingSince k = some t ∨ min (t + gatewayLeavePeriod) (2 ^ 63 - 1) ≤ now
  counter : ∀ u, nextIdOf s u ≤ nextIdOf s' u

lemma nextIdOf_congr (h : s'.withdrawalCounters = s.withdrawalCounters) (u : Pubkey) :
    nextIdOf s' u = nextIdOf s u := by
  rw [nextIdOf, nextIdOf, loadCounter, loadCounter, h]

lemma nextIdOf_update {nextId : WithdrawalId}
    (h : s'.withdrawalCounters
      = Function.update s.withdrawalCounters u (some { loadCounter s u with nextId }))
        (v : Pubkey) :
    nextIdOf s' v = if v = u then nextId.val else nextIdOf s v := by
  rw [nextIdOf, loadCounter, h]
  split
  · rename_i hv
    subst hv
    rw [Function.update_self]
    rfl
  · rename_i hv
    rw [Function.update_of_ne hv]
    rfl

namespace VaultStep

lemma mono {draws' : Pubkey → WithdrawalId → Prop} (h : VaultStep draws now s s')
    (hle : ∀ u id, draws u id → draws' u id) : VaultStep draws' now s s' where
  vault u id := by
    cases h.vault u id with
    | same same => exact .same same
    | created absent present next counted born exit =>
      exact .created absent present next counted born exit
    | drawn was covered left gate =>
      exact .drawn was covered left fun hprot =>
        hle u id (gate hprot)
    | closed was gone reason => exact .closed was gone reason
  leaving := h.leaving
  counter := h.counter

lemma idle (hG : SameLeaving s s') (hW : s'.withdrawals = s.withdrawals)
    (hC : s'.withdrawalCounters = s.withdrawalCounters) : VaultStep draws now s s' where
  vault u id := .same (by rw [hW])
  leaving k t h := .inl (by rw [hG]; exact h)
  counter u := (nextIdOf_congr hC u).ge

lemma write {v : Option Withdrawal} (hG : SameLeaving s s')
    (hW : s'.withdrawals = Function.update s.withdrawals (u, id) v)
    (hC : ∀ u, nextIdOf s u ≤ nextIdOf s' u) (h : VaultChange draws now s s' u id) :
    VaultStep draws now s s' where
  vault u' id' := by
    by_cases hkey : (u', id') = (u, id)
    · obtain ⟨rfl, rfl⟩ := Prod.mk.inj hkey
      exact h
    · exact .same (by rw [hW, Function.update_of_ne hkey])
  leaving k t h := .inl (by rw [hG]; exact h)
  counter := hC

lemma create {w : Withdrawal} {nextId : WithdrawalId} (hG : SameLeaving s s')
    (hnone : s.withdrawals (u, (loadCounter s u).nextId) = none)
    (hnext : nextId.val = (loadCounter s u).nextId.val + 1)
    (hC : s'.withdrawalCounters
      = Function.update s.withdrawalCounters u (some { loadCounter s u with nextId }))
    (hW : s'.withdrawals = Function.update s.withdrawals (u, (loadCounter s u).nextId) (some w))
    (hborn : w.Born now s.settings.withdrawalPeriod) (hplain : w.isProtected = false) :
    VaultStep draws now s s' := by
  have hcounter := nextIdOf_update hC
  refine write hG hW (fun v => ?_) (.created hnone (by rw [hW, Function.update_self]) le_rfl ?_
    hborn
    fun h => ?_)
  · rw [hcounter v]
    split
    · rename_i hv
      subst hv
      exact hnext.ge.trans' (Nat.le_succ _)
    · exact le_rfl
  · rw [hcounter u, if_pos rfl]
    omega
  · rw [hplain] at h
    cases h

lemma close {w : Withdrawal} (hG : SameLeaving s s') (hw : s.withdrawals (u, id) = some w)
    (hW : s'.withdrawals = Function.update s.withdrawals (u, id) none)
    (hC : s'.withdrawalCounters = s.withdrawalCounters)
    (h : w.availableAt ≤ now ∨ w.isProtected = false ∨ w.amount = 0 ∨
      ∃ g, s.gateways w.gateway = some g ∧ g.status = .joined) : VaultStep draws now s s' :=
  write hG hW (fun u => (nextIdOf_congr hC u).ge)
    (.closed hw (by rw [hW, Function.update_self]) h)

end VaultStep

/-! ### The instructions -/

lemma Vaults.vaultStep (h : Vaults now u k s s') : VaultStep draws now s s' := by
  obtain ⟨g, d, amount, hg, hd, -, -, h⟩ := h
  obtain ⟨nextId, hnone, hnext, rfl⟩ := vaultDelegation_ok h
  exact .create (.of_update hg rfl rfl) hnone hnext rfl rfl ⟨rfl, fun _ => rfl⟩ rfl

lemma decreaseOperatorStake_vaultStep {amount : ℕ}
    (h : decreaseOperatorStake now k amount s = .ok s') : VaultStep draws now s s' := by
  obtain ⟨g, nextId, hg, -, -, -, hnone, hnext, rfl⟩ := decreaseOperatorStake_ok h
  exact .create (.of_update hg rfl rfl) hnone hnext rfl rfl ⟨rfl, fun _ => rfl⟩ rfl

lemma cancelWithdrawal_vaultStep {withDelegation : Bool}
    (h : cancelWithdrawal u k id withDelegation s = .ok s') : VaultStep draws now s s' := by
  obtain ⟨w, g, hw, hg, rfl, hst, ⟨-, d, -, rfl⟩ | ⟨-, rfl⟩⟩ := cancelWithdrawal_ok h
  · exact .close (.of_update hg rfl rfl) hw rfl rfl (.inr (.inr (.inr ⟨g, hg, hst⟩)))
  · exact .close (.of_update hg rfl rfl) hw rfl rfl (.inr (.inr (.inr ⟨g, hg, hst⟩)))

lemma leavingSince_of_joined (h : g.status = .joined) : g.leavingSince = none := by
  rw [Gateway.leavingSince, h]
  rfl

lemma leavingSince_update (hg : s.gateways k = some g) (hst : g.status = .joined)
    {v : Option Gateway}
    (hs' : s'.gateways = Function.update s.gateways k v) {j : Pubkey} {t : ℤ}
    (h : s.leavingSince j = some t) : s'.leavingSince j = some t := by
  have hj : j ≠ k := by
    rintro rfl
    rw [State.leavingSince, hg, Option.bind_some, leavingSince_of_joined hst] at h
    cases h
  rw [State.leavingSince, hs', Function.update_of_ne hj]
  exact h

lemma VaultStep.depart {stake : ℕ} {flag : Bool} {duration : ℤ}
    {C : Pubkey → Option WithdrawalCounter} {W : Pubkey × WithdrawalId → Option Withdrawal}
    (hg : s.gateways k = some g) (hst : g.status = .joined)
    (hexit : ExitVaults now k stake flag s C W)
    (hfits : now + gatewayLeavePeriod < 2 ^ 63)
    (hG : s'.gateways = Function.update s.gateways k (some (g.departed now duration)))
    (hC : s'.withdrawalCounters = C) (hW : s'.withdrawals = W) : VaultStep draws now s s' := by
  obtain ⟨hnone, excessId, nextId, hnext, hC', hvaults⟩ := hexit
  have hcounter := nextIdOf_update (hC.trans hC')
  have hsince : s'.leavingSince k = some now := by
    rw [State.leavingSince, hG, Function.update_self]
    rfl
  have hid : nextIdOf s k = (loadCounter s k).nextId.val := rfl
  have hle : excessId.val ≤ nextId.val := by
    rcases hvaults with ⟨-, rfl, -⟩ | ⟨-, hnext₂, -⟩
    · exact le_rfl
    · omega
  have hmono (u : Pubkey) : nextIdOf s u ≤ nextIdOf s' u := by
    rw [hcounter u]
    split
    · rename_i hu
      subst hu
      omega
    · exact le_rfl
  -- The vault for up to the minimum is protected if it holds anything.
  have hfirst (amount : ℕ) (h : s'.withdrawals (k, (loadCounter s k).nextId)
      = some (exitVault now k (loadCounter s k).nextId amount flag)) :
      VaultChange draws now s s' k (loadCounter s k).nextId := by
    refine .created hnone h le_rfl ?_ ⟨rfl, fun hpos => ?_⟩ fun hprot => ?_
    · rw [hcounter k, if_pos rfl]
      omega
    · simp only [exitVault] at hpos ⊢
      simp [hpos]
    · have hpos : 0 < amount := by simpa [exitVault] using hprot
      refine ⟨hpos, ?_, hsince⟩
      simp only [exitVault, if_pos hpos]
      exact hfits
  refine ⟨fun u id => ?_, fun j t h => .inl (leavingSince_update hg hst hG h), hmono⟩
  rcases hvaults with ⟨-, -, rfl⟩ | ⟨hlt, hnext₂, hnone₂, rfl⟩
  · by_cases hkey : (u, id) = (k, (loadCounter s k).nextId)
    · obtain ⟨rfl, rfl⟩ := Prod.mk.inj hkey
      exact hfirst stake (by rw [hW, Function.update_self])
    · exact .same (by rw [hW, Function.update_of_ne hkey])
  · have hne : ((k, (loadCounter s k).nextId) : Pubkey × WithdrawalId) ≠ (k, excessId) := by
      intro heq
      have hval := congrArg Fin.val (Prod.mk.inj heq).2
      omega
    by_cases hkey : (u, id) = (k, (loadCounter s k).nextId)
    · obtain ⟨rfl, rfl⟩ := Prod.mk.inj hkey
      exact hfirst _ (by rw [hW, Function.update_of_ne hne, Function.update_self])
    by_cases hkey₂ : (u, id) = (k, excessId)
    · obtain ⟨rfl, rfl⟩ := Prod.mk.inj hkey₂
      refine .created hnone₂ (by rw [hW, Function.update_self]) (by omega) ?_ ⟨rfl, fun _ => rfl⟩
        fun hprot => ?_
      · rw [hcounter u, if_pos rfl]
        omega
      · cases hprot
    · exact .same (by rw [hW, Function.update_of_ne hkey₂, Function.update_of_ne hkey])

lemma createExitVaults_fits {stake : ℕ} {excess : Option Address} {flag : Bool}
    (h : createExitVaults now k stake excess flag s = .ok s') : now + gatewayLeavePeriod < 2 ^
        63 := by
  simp only [createExitVaults, bind_eq_ok, addTime_eq_ok] at h
  obtain ⟨_, ⟨hfits, -⟩, -⟩ := h
  exact hfits.2

lemma leaveNetwork_vaultStep {excess : Option Address} {remaining : List AccountMeta}
    (h : leaveNetwork now k excess remaining s = .ok s') : VaultStep draws now s s' := by
  have hfits : now + gatewayLeavePeriod < 2 ^ 63 := by
    simp only [leaveNetwork, bind_eq_ok] at h
    obtain ⟨_, -, _, -, _, -, _, h₁, -⟩ := h
    exact createExitVaults_fits h₁
  obtain ⟨g, settings, C, W, L, hg, -, -, hst, hexit, -, -, -, rfl⟩ := leaveNetwork_ok h
  exact .depart hg hst hexit hfits rfl rfl rfl

lemma pruneGateway_vaultStep {p q : Pubkey} {excess : Option Address} {remaining : List AccountMeta}
    (h : pruneGateway env now k p q excess remaining s = .ok s') : VaultStep draws now s s' := by
  have hfits : now + gatewayLeavePeriod < 2 ^ 63 := by
    simp only [pruneGateway, bind_eq_ok] at h
    obtain ⟨_, -, _, -, _, -, _, -, _, -, _, -, _, h₁, -⟩ := h
    exact createExitVaults_fits h₁
  obtain ⟨g, settings, slash, C, W, L, t, hg, -, -, hst, -, -, hexit, -, -, -, -, rfl⟩ :=
    pruneGateway_ok h
  exact .depart hg hst hexit hfits rfl rfl rfl

lemma le_finalizeGoneExpiry {duration expiry t : ℤ}
    (h : finalizeGoneExpiry g duration = .ok expiry) (ht : g.leaveTimestamp = some t) :
    min (t + gatewayLeavePeriod) (2 ^ 63 - 1) ≤ expiry := by
  simp only [finalizeGoneExpiry, bind_eq_ok, okOr_eq_ok, pure_eq_ok] at h
  obtain ⟨t', ht', rfl⟩ := h
  obtain rfl := Option.some.inj (ht.symm.trans ht')
  simp only [saturatingAddSigned, saturatingMulSigned, gatewayLeavePeriod]
  norm_num

lemma finalizeGone_vaultStep {remaining : List AccountMeta}
    (h : finalizeGone now k remaining s = .ok s') : VaultStep draws now s s' := by
  obtain ⟨g, settings, s₁, hg, -, -, -, -, ⟨expiry, hexpiry, hover⟩, -, -, -, hmove, rfl⟩ :=
    finalizeGone_ok h
  have hkept : SameLeaving s s₁ ∧ s₁.withdrawals = s.withdrawals ∧
      s₁.withdrawalCounters = s.withdrawalCounters := by
    rcases moveLastSlot_ok hmove with ⟨-, rfl⟩ | ⟨x, -, hx, rfl⟩
    · exact ⟨.refl _, rfl, rfl⟩
    · exact ⟨.of_update hx rfl rfl, rfl, rfl⟩
  obtain ⟨hsame, hW, hC⟩ := hkept
  refine ⟨fun u id => .same (by rw [← hW]), fun j t ht => ?_, fun u => (nextIdOf_congr hC u).ge⟩
  by_cases hj : j = k
  · subst hj
    rw [State.leavingSince, hg, Option.bind_some, Gateway.leavingSince] at ht
    split at ht
    · exact .inr ((le_finalizeGoneExpiry hexpiry ht).trans hover)
    · cases ht
  · rw [← hsame] at ht
    have hkeep : Function.update s₁.gateways k none j = s₁.gateways j := Function.update_of_ne hj ..
    exact .inl ((congrArg (Option.bind · Gateway.leavingSince) hkeep).trans ht)

lemma joinNetwork_vaultStep {a p : Pubkey} {params : JoinNetworkParams}
    (h : joinNetwork now k a p params s = .ok s') : VaultStep draws now s s' := by
  obtain ⟨g, t, hnone, -, -, -, -, -, -, -, -, -, -, -, -, -, -, -, -, rfl⟩ := joinNetwork_ok h
  refine ⟨fun u id => .same rfl, fun j t ht => .inl ?_, fun u => (nextIdOf_congr rfl u).ge⟩
  have hj : j ≠ k := by
    rintro rfl
    rw [State.leavingSince, hnone] at ht
    cases ht
  have hkeep : Function.update s.gateways k (some g) j = s.gateways j := Function.update_of_ne hj ..
  exact (congrArg (Option.bind · Gateway.leavingSince) hkeep).trans ht

lemma DrawnAt.leavingSince {payer : Pubkey} {x : Option Gateway} {d : Option Delegation}
    {n m left : ℕ} (h : DrawnAt s payer k x d n m left) :
    x.bind Gateway.leavingSince = s.leavingSince k := by
  cases h with
  | untouched => rfl
  | delegation positive joined gateway =>
    rw [State.leavingSince, gateway]
    rfl
  | operatorStake positive joined self gateway =>
    rw [State.leavingSince, gateway]
    rfl

/-- A funding plan draws on what it names, and makes new vaults of the residues. -/
lemma payFromFundingPlan_vaultStep {payer p q : Pubkey} {pta : Option Pubkey}
    {remaining : List AccountMeta} {sources : List FundingSourceSpec} {total count : ℕ}
    (h : payFromFundingPlan env now payer p q pta remaining sources total count s = .ok s') :
    VaultStep (Instruction.payFromFundingPlan payer p q pta remaining sources total
      count).DrawsOn now
      s s' := by
  obtain ⟨residues, w⟩ := payFromFundingPlan_accounts h
  refine ⟨fun u id => ?_, fun k t ht => .inl ?_, fun u => ?_⟩
  · by_cases hu : u = payer
    · subst hu
      cases hv : s.withdrawals (u, id) with
      | some v =>
        obtain ⟨hle, hleft⟩ := w.withdrawals id v hv
        rcases Nat.eq_zero_or_pos (drawnFrom (namedAccounts sources remaining) (.withdrawal u id))
          with hzero | hpos
        · rw [hzero] at hleft
          exact .same (hleft.trans hv.symm)
        · exact .drawn hv hle hleft fun _ => hpos
      | none =>
        obtain ⟨-, hother⟩ := w.absent id hv
        by_cases hrange : id.val < nextIdOf s u ∨ nextIdOf s u + residues.length ≤ id.val
        · exact .same ((hother hrange).trans hv.symm)
        · have hlt : id.val - nextIdOf s u < residues.length := by omega
          obtain ⟨id', hid', -, hvault⟩ := w.vaults _ _ _ (List.getElem?_eq_getElem hlt)
          obtain rfl : id' = id := Fin.ext (by omega)
          refine .created hv hvault (by omega) ?_ ⟨rfl, fun _ => rfl⟩ fun hprot => ?_
          · rw [w.counter]
            omega
          · cases hprot
    · exact .same ((w.others u hu).2.1 id)
  · obtain ⟨left, hdrawn, -⟩ := w.each k
    exact hdrawn.leavingSince.trans ht
  · by_cases hu : u = payer
    · subst hu
      rw [w.counter]
      exact Nat.le_add_right ..
    · exact (congrArg (fun c => (c.getD ⟨u, 0⟩).nextId.val) (w.others u hu).2.2).ge

lemma distributeEpoch_vaultStep {index : ℕ} {p q : Pubkey} {remaining : List AccountMeta} {t : ℤ}
    (h : distributeEpoch env t index p q remaining s = .ok s') : VaultStep draws now s s' := by
  obtain ⟨settings, epoch, -, -, rfl, rfl, -, -, -, ⟨-, -, rfl⟩ |
    ⟨batch, payout, t, -, hb, hpay, -, -, hs'⟩⟩ := distributeEpoch_ok h
  · exact .idle (.of_eq rfl) rfl rfl
  · obtain ⟨idxs, xs, hpend, -, hscan, -⟩ := scanBatch_ok hb
    rw [List.nil_append] at hpend
    have hxs : ∀ x ∈ batch.pending, s.gateways x.gateway.operator = some x.gateway := by
      intro x hx
      obtain ⟨j, -, info, hslot⟩ := exists_of_forall₂ hscan (hpend ▸ hx)
      exact (scanSlot_ok hslot).1
    obtain ⟨hG, G, hrest⟩ := payBatch_leaving hxs (.refl s) ⟨_, rfl⟩ hpay
    refine .idle (hG.trans (.of_eq (by rw [hs']))) ?_ ?_
    all_goals rw [hs', hrest]

lemma tallyWeights_vaultStep {index : ℕ} {remaining : List AccountMeta}
    (h : tallyWeights index remaining s = .ok s') : VaultStep draws now s s' := by
  obtain ⟨settings, epoch, s₁, epoch', -, -, -, -, -, hbatch, rfl⟩ := tallyWeights_ok h
  have hG : SameLeaving s s₁ := tallyBatch_leaving hbatch
  obtain ⟨G, r, rfl⟩ := (tallyBatch_tallied hbatch).rest
  exact .idle (hG.trans (.of_eq rfl)) rfl rfl

/-! ### Every instruction -/

/-- **What every instruction does to the withdrawals.** -/
theorem handler_vaults (h : i.handler env clock s = .ok s') :
    VaultStep i.DrawsOn clock.unixTimestamp s s' := by
  by_cases he : i.IsEpochOnly
  · obtain ⟨_, _, _, _, rfl⟩ := handler_epochOnly he h
    exact .idle (.of_eq rfl) rfl rfl
  cases i <;> try exact absurd trivial he
  all_goals simp only [Instruction.handler] at h
  case adminSetWithdrawalPeriod authority period =>
    simp only [adminSetWithdrawalPeriod, bind_eq_ok, pure_eq_ok] at h
    obtain ⟨_, -, _, -, rfl⟩ := h
    exact .idle (.of_eq rfl) rfl rfl
  case transferAuthority authority newAuthority =>
    simp only [transferAuthority, bind_eq_ok, pure_eq_ok] at h
    obtain ⟨_, -, _, -, rfl⟩ := h
    exact .idle (.of_eq rfl) rfl rfl
  case finalizeMigration authority =>
    simp only [finalizeMigration, bind_eq_ok, pure_eq_ok] at h
    obtain ⟨_, -, _, -, rfl⟩ := h
    exact .idle (.of_eq rfl) rfl rfl
  case joinNetwork operator account pool params => exact joinNetwork_vaultStep h
  case leaveNetwork operator excess remaining => exact leaveNetwork_vaultStep h
  case updateGatewaySettings operator params =>
    obtain ⟨g, g', hg, -, -, rfl, hshell, -⟩ := updateGatewaySettings_ok h
    exact .idle (.of_update hg rfl (leavingSince_of_shell hshell)) rfl rfl
  case updateGatewayMetadata signer operator params =>
    obtain ⟨g, g', hg, -, -, rfl, hshell, -⟩ := updateGatewayMetadata_ok h
    exact .idle (.of_update hg rfl (leavingSince_of_shell hshell)) rfl rfl
  case updateOperationsAddress operator newOperations =>
    obtain ⟨g, hg, -, -, rfl⟩ := updateOperationsAddress_ok h
    exact .idle (.of_update hg rfl rfl) rfl rfl
  case updateObserverAddress operator newObserver =>
    obtain ⟨g, hg, -, -, -, -, -, rfl⟩ := updateObserverAddress_ok h
    exact .idle (.of_update hg rfl rfl) rfl rfl
  case pruneGateway operator pool treasury excess remaining => exact pruneGateway_vaultStep h
  case finalizeGone operator remaining => exact finalizeGone_vaultStep h
  case increaseOperatorStake operator account pool amount =>
    obtain ⟨g, t, hg, -, -, -, -, rfl⟩ := increaseOperatorStake_ok h
    exact .idle (.of_update hg rfl rfl) rfl rfl
  case decreaseOperatorStake operator amount => exact decreaseOperatorStake_vaultStep h
  case delegateStake delegator gateway account pool remaining amount =>
    obtain ⟨g, d, t, hg, -, -, -, -, -, rfl⟩ := delegateStake_ok h
    exact .idle (.of_update hg rfl rfl) rfl rfl
  case decreaseDelegateStake delegator gateway amount =>
    exact (decreaseDelegateStake_ok h).vaultStep
  case claimDelegateFromLeavingGateway delegator gateway =>
    exact (claimDelegateFromLeavingGateway_ok h).vaultStep
  case claimDelegateFromDisabledGateway delegator gateway =>
    exact (claimDelegateFromDisabledGateway_ok h).vaultStep
  case closeEmptyDelegation delegator gateway =>
    obtain ⟨g, d, hg, hd, -, rfl⟩ := closeEmptyDelegation_ok h
    exact .idle (.of_update hg rfl rfl) rfl rfl
  case redelegateStake delegator source target account pool treasury remaining amount =>
    obtain ⟨g, d, g', d', fee, t, record, hne, hg, hd, hg', -, -, -, -, -, rfl⟩ :=
      redelegateStake_ok h
    exact .idle (.of_two hne.symm hg hg' rfl rfl rfl) rfl rfl
  case compoundDelegationRewards delegator gateway =>
    obtain ⟨g, d, hg, hd, rfl⟩ := compoundDelegationRewards_ok h
    exact .idle (.of_update hg rfl rfl) rfl rfl
  case allowDelegate operator delegate =>
    obtain ⟨_, rfl⟩ := allowDelegate_ok h
    exact .idle (.of_eq rfl) rfl rfl
  case disallowDelegate operator delegate =>
    rw [disallowDelegate_ok h]
    exact .idle (.of_eq rfl) rfl rfl
  case setAllowlistEnabled operator enabled =>
    obtain ⟨g, hg, rfl⟩ := setAllowlistEnabled_ok h
    exact .idle (.of_update hg rfl rfl) rfl rfl
  case claimWithdrawal owner id pool account =>
    obtain ⟨w, _, hw, hready, -, -, rfl⟩ := claimWithdrawal_ok h
    exact .close (.of_eq rfl) hw rfl rfl (.inl hready)
  case instantWithdrawal owner id pool account treasury =>
    obtain ⟨w, _, _, _, hw, hplain, -, -, -, -, -, rfl⟩ := instantWithdrawal_ok h
    exact .close (.of_eq rfl) hw rfl rfl (.inr (.inl hplain))
  case cancelWithdrawal owner gateway id withDelegation => exact cancelWithdrawal_vaultStep h
  case closeDrainedWithdrawal owner id =>
    obtain ⟨w, hw, hempty, rfl⟩ := closeDrainedWithdrawal_ok h
    exact .close (.of_eq rfl) hw rfl rfl (.inr (.inr (.inl hempty)))
  case deductDelegationForPayment delegator gateway pool treasury amount =>
    obtain ⟨g, d, t, hg, hd, -, -, -, rfl⟩ := deductDelegationForPayment_ok h
    exact .idle (.of_update hg rfl rfl) rfl rfl
  case deductOperatorStakeForPayment operator pool treasury amount =>
    obtain ⟨g, t, hg, -, -, -, -, rfl⟩ := deductOperatorStakeForPayment_ok h
    exact .idle (.of_update hg rfl rfl) rfl rfl
  case deductWithdrawalForPayment owner id pool treasury amount =>
    obtain ⟨w, t, hw, hplain, hle, -, rfl⟩ := deductWithdrawalForPayment_ok h
    refine .write (.of_eq rfl) rfl (fun u => (nextIdOf_congr rfl u).ge)
      (.drawn hw hle (Function.update_self ..) fun hprot => ?_)
    rw [hplain] at hprot
    cases hprot
  case payFromFundingPlan payer pool treasury account remaining sources total count =>
    exact payFromFundingPlan_vaultStep h
  case adminReconcileDelegatedStake authority gateway remaining counter removed =>
    obtain ⟨g, sum, hg, -, -, rfl⟩ := adminReconcileDelegatedStake_ok h
    exact .idle (.of_update hg rfl rfl) rfl rfl
  case adminResyncSupplyCounters authority es ns ed nd =>
    rw [adminResyncSupplyCounters_ok h]
    exact .idle (.of_eq rfl) rfl rfl
  case tallyWeights index remaining => exact tallyWeights_vaultStep h
  case distributeEpoch index treasury pool remaining => exact distributeEpoch_vaultStep h

lemma handler_lowers {w : Withdrawal} (h : i.handler env clock s = .ok s') (hdraw : i.DrawsOn u id)
    (hw : s.withdrawals (u, id) = some w) : s'.withdrawals (u, id) ≠ some w := by
  cases i <;> try exact hdraw.elim
  case payFromFundingPlan payer pool treasury account remaining sources total count =>
    obtain ⟨residues, x⟩ := payFromFundingPlan_accounts h
    have hpos : 0 < drawnFrom (namedAccounts sources remaining) (.withdrawal u id) := hdraw
    obtain ⟨y, hy, haddr⟩ : ∃ y ∈ namedAccounts sources remaining, y.1 = .withdrawal u id := by
      by_contra hno
      push Not at hno
      have hnone : (namedAccounts sources remaining).filter (fun y => y.1 = .withdrawal u id) =
        [] :=
        List.filter_eq_nil_iff.mpr fun y hy => by simpa using hno y hy
      rw [drawnFrom, hnone] at hpos
      exact absurd hpos (lt_irrefl 0)
    obtain rfl : u = payer := by
      rcases (x.ofPayer y hy).1 with ⟨k, hk⟩ | hk | ⟨id', hk⟩
      · cases haddr.symm.trans hk
      · cases haddr.symm.trans hk
      · exact (Address.withdrawal.inj (haddr.symm.trans hk)).1
    obtain ⟨hle, hleft⟩ := x.withdrawals id w hw
    intro hkept
    have hamount := congrArg Withdrawal.amount (Option.some.inj (hkept.symm.trans hleft))
    simp only at hamount
    omega

end Gar
end ArioSolana
