import ArioSolana.GarRedelegation

/-!
# Who may delegate

Stake enters a delegation through three instructions, and each writes its own checks. The switch of
a gateway closes all three, and it opens again only when it has been closed for the withdrawal
period and no delegated stake is left.
-/

namespace ArioSolana
namespace Gar

open Checked Solana

/-! ### Entrances -/

/-- The instruction moves stake into the delegation of `u` to the gateway `k`. -/
def Instruction.Deposits (i : Instruction) (s : State) (k u : Pubkey) : Prop :=
  match i with
  | .delegateStake delegator gateway .. => delegator = u ∧ gateway = k
  | .redelegateStake delegator _ target .. => delegator = u ∧ target = k
  | .cancelWithdrawal owner gateway id _ => owner = u ∧ gateway = k ∧
      ∃ w, s.withdrawals (u, id) = some w ∧ w.isDelegate = true
  | _ => False

/-- The delegation of `u` to the gateway `k` is not empty, or the allowlist lets it be filled. -/
def Entered (s : State) (k u : Pubkey) : Prop :=
  ∀ g, s.gateways k = some g → g.settings.allowlistEnabled = true →
    ((s.delegations (k, u)).getD Delegation.zeroed).amount = 0 →
    (s.allowlist (k, u)).isSome = true

/-- The instruction does not cancel a withdrawal into an empty delegation that the allowlist keeps
out. -/
def Instruction.Listed (i : Instruction) (s : State) (k u : Pubkey) : Prop :=
  match i with
  | .cancelWithdrawal .. => Entered s k u
  | _ => True

/-- When delegation to the gateway `k` was last switched off, if it was since the gateway joined. -/
def lastDisabled (k : Pubkey) : Trace → Option ℤ
  | [] => none
  | x :: earlier =>
    match x.before.gateways k, x.after.gateways k with
    | some g, some g' =>
      if g.settings.allowDelegatedStaking = true ∧ g'.settings.allowDelegatedStaking = false then
        some x.label.clock.unixTimestamp
      else lastDisabled k earlier
    | _, _ => none

section

variable {env : Env} {s s' s₀ : State} {k u : Pubkey} {g g' : Gateway} {i : Instruction}
  {clock : Clock} {tr : Trace} {e : Event} {now period t : ℤ}

lemma Admits.entered (h : Admits s k u) : Entered s k u := by
  obtain ⟨g, hg, -, -, -, hlisted⟩ := h
  intro x hx
  obtain rfl := Option.some.inj (hg.symm.trans hx)
  exact hlisted

lemma admits_iff_listed (hself : NoSelf s) (h : i.handler env clock s = .ok s')
    (hdep : i.Deposits s k u) : Admits s k u ↔ i.Listed s k u := by
  cases i <;> try exact hdep.elim
  case delegateStake delegator gateway account pool remaining amount =>
    obtain ⟨rfl, rfl⟩ := hdep
    exact ⟨fun _ => trivial, fun _ => delegateStake_admits h⟩
  case redelegateStake delegator source target account pool treasury remaining amount =>
    obtain ⟨rfl, rfl⟩ := hdep
    exact ⟨fun _ => trivial, fun _ => redelegateStake_admits h⟩
  case cancelWithdrawal owner gateway id withDelegation =>
    obtain ⟨rfl, rfl, w, hw, hdel⟩ := hdep
    refine ⟨Admits.entered, fun hlisted => ?_⟩
    obtain ⟨w₁, g, hw₁, hg, hst, hon⟩ := cancelWithdrawal_allowed h
    obtain rfl := Option.some.inj (hw.symm.trans hw₁)
    refine ⟨g, hg, hst, hon hdel, ?_, hlisted g hg⟩
    -- The delegation is there already, so it is not one to the own gateway.
    obtain ⟨w₂, _, hw₂, -, -, -, ⟨-, d, hd, -⟩ | ⟨hoperator, -⟩⟩ := cancelWithdrawal_ok h
    · rintro rfl
      rw [hself] at hd
      cases hd
    · obtain rfl := Option.some.inj (hw.symm.trans hw₂)
      rw [hdel] at hoperator
      cases hoperator

/-! ### The switch -/

/-- What a step does to the delegation switch of a gateway. -/
inductive Switched (now period : ℤ) (g g' : Gateway) : Prop
  | held (same : g'.settings.allowDelegatedStaking = g.settings.allowDelegatedStaking)
      (stamp : g'.settings.delegationDisabledAt = g.settings.delegationDisabledAt)
  | off (was : g.settings.allowDelegatedStaking = true)
      (is : g'.settings.allowDelegatedStaking = false)
      (stamp : g'.settings.delegationDisabledAt = some now)
  | on (was : g.settings.allowDelegatedStaking = false)
      (is : g'.settings.allowDelegatedStaking = true) (empty : g.totalDelegatedStake = 0)
      (cooled : ∀ t, g.settings.delegationDisabledAt = some t → t + period ≤ now)

lemma switchDelegation_switched {allow : Bool}
    (h : g.switchDelegation now period allow = .ok g') : Switched now period g g' := by
  unfold Gateway.switchDelegation at h
  simp only [Bool.and_eq_true, Bool.not_eq_true'] at h
  split at h
  · rename_i hoff
    obtain rfl := pure_eq_ok.mp h
    exact .off hoff.2 hoff.1 rfl
  · rename_i hoff
    split at h
    · rename_i hon
      simp only [bind_eq_ok, require_eq_ok, exists_const] at h
      obtain ⟨hempty, h⟩ := h
      split at h
      · rename_i hnone
        obtain rfl := pure_eq_ok.mp h
        refine .on hon.2 hon.1 hempty fun t ht => ?_
        rw [hnone] at ht
        cases ht
      · rename_i t hsome
        simp only [bind_eq_ok, addTime_eq_ok, require_eq_ok, pure_eq_ok, exists_const] at h
        obtain ⟨_, ⟨-, rfl⟩, hcooled, rfl⟩ := h
        refine .on hon.2 hon.1 hempty fun t' ht' => ?_
        obtain rfl := Option.some.inj (hsome.symm.trans ht')
        exact hcooled
    · rename_i hon
      obtain rfl := pure_eq_ok.mp h
      refine .held ?_ rfl
      cases allow
      · cases hg : g.settings.allowDelegatedStaking
        · rfl
        · exact absurd ⟨rfl, hg⟩ hoff
      · cases hg : g.settings.allowDelegatedStaking
        · exact absurd ⟨rfl, hg⟩ hon
        · rfl

lemma Switched.congr {g₁ g₂ : Gateway} (h : Switched now period g₁ g₂)
    (hset : g₁.settings = g.settings) (htotal : g₁.totalDelegatedStake = g.totalDelegatedStake)
    (hon : g'.settings.allowDelegatedStaking = g₂.settings.allowDelegatedStaking)
    (hat : g'.settings.delegationDisabledAt = g₂.settings.delegationDisabledAt) :
    Switched now period g g' := by
  cases h with
  | held same stamp => exact .held (by rw [hon, same, hset]) (by rw [hat, stamp, hset])
  | off was is stamp => exact .off (by rw [← hset, was]) (by rw [hon, is]) (by rw [hat, stamp])
  | on was is empty cooled =>
    exact .on (by rw [← hset, was]) (by rw [hon, is]) (by rw [← htotal, empty])
      fun t ht => cooled t (by rw [hset, ht])

lemma updateGatewaySettings_switched {params : UpdateGatewayParams}
    (h : updateGatewaySettings now k params s = .ok s') (hg : s.gateways k = some g)
    (hg' : s'.gateways k = some g') :
    Switched now s.settings.withdrawalPeriod g g' ∧
      g'.totalDelegatedStake = g.totalDelegatedStake := by
  simp only [updateGatewaySettings, bind_eq_ok, loadOwnGateway_eq_ok, require_eq_ok, pure_eq_ok,
    exists_const] at h
  obtain ⟨x, ⟨hx, -⟩, -, g₁, h₁, g₂, h₂, _, -, _, -, rfl⟩ := h
  obtain rfl := Option.some.inj (hg.symm.trans hx)
  obtain ⟨_, _, _, _, _, _, rfl⟩ := describe_ok h₁
  simp only [State.setGateway, Function.update_self, Option.some.injEq] at hg'
  subst hg'
  cases hp : params.allowDelegatedStaking with
  | none =>
    simp only [hp, Option.elim_none, pure_eq_ok] at h₂
    subst h₂
    exact ⟨.held rfl rfl, rfl⟩
  | some allow =>
    simp only [hp, Option.elim_some] at h₂
    refine ⟨(switchDelegation_switched h₂).congr rfl rfl rfl rfl, ?_⟩
    obtain ⟨_, _, rfl⟩ := switchDelegation_ok h₂
    rfl

/-- **One step and the switch.** The switch of a gateway turns by its rules, and while it is off the
counter of the gateway grows by settled rewards only. -/
lemma garStep_switched (h : GarStep env s e s') (hg : s.gateways k = some g)
    (hg' : s'.gateways k = some g') :
    Switched e.clock.unixTimestamp s.settings.withdrawalPeriod g g' ∧
      (g.settings.allowDelegatedStaking = false → ∃ settled, Settles s k g settled ∧
        g'.totalDelegatedStake ≤ g.totalDelegatedStake + settled) := by
  have hfrom (hheld : Held s k g g') : Switched e.clock.unixTimestamp s.settings.withdrawalPeriod
      g g' ∧ (g.settings.allowDelegatedStaking = false → ∃ settled, Settles s k g settled ∧
        g'.totalDelegatedStake ≤ g.totalDelegatedStake + settled) :=
    ⟨.held hheld.allowed hheld.disabledAt, hheld.counter⟩
  rcases garStep_cases h with ⟨i, -, -, h⟩ | ⟨t, rfl⟩
  · by_cases hup : i.Updates k
    · cases i <;> try exact hup.elim
      case updateGatewaySettings operator params =>
      obtain rfl : operator = k := hup
      obtain ⟨hswitched, htotal⟩ := updateGatewaySettings_switched h hg hg'
      exact ⟨hswitched, fun _ => ⟨0, .inl rfl, htotal.le⟩⟩
    · exact hfrom ((handler_regular h).gateways k g g' hg hg' hup)
  · obtain rfl := Option.some.inj (hg.symm.trans hg')
    exact hfrom .refl

lemma garStep_fresh (h : GarStep env s e s') (hnone : s.gateways k = none)
    (hg' : s'.gateways k = some g') : g'.settings.delegationDisabledAt = none := by
  rcases garStep_cases h with ⟨i, -, -, h⟩ | ⟨t, rfl⟩
  · exact (handler_regular h).fresh k g' hnone hg'
  · rw [hnone] at hg'
    cases hg'

/-! ### Runs -/

/-- The stamp of a gateway whose switch is off is the time when it was switched off. -/
def Stamped (tr : Trace) (s : State) : Prop :=
  ∀ k g, s.gateways k = some g → g.settings.allowDelegatedStaking = false →
    g.settings.delegationDisabledAt = lastDisabled k tr

lemma stamped_step (h : GarStep env s e s') (hst : Stamped tr s) :
    Stamped (⟨s, e, s'⟩ :: tr) s' := by
  intro k g' hg' hoff
  cases hg : s.gateways k with
  | none =>
    simp only [lastDisabled, hg]
    exact garStep_fresh h hg hg'
  | some g =>
    simp only [lastDisabled, hg, hg']
    cases (garStep_switched h hg hg').1 with
    | held same stamp =>
      rw [same] at hoff
      rw [if_neg (by rw [hoff]; simp), stamp]
      exact hst k g hg hoff
    | off was is stamp => rw [if_pos ⟨was, is⟩, stamp]
    | on was is empty cooled =>
      rw [hoff] at is
      cases is

lemma Fresh.gateways (h : Fresh env s) : s.gateways = fun _ => none := by
  obtain ⟨payer, mint, params, tokens, hinit⟩ := h.initialized
  simp only [initializeGar, bind_eq_ok, pure_eq_ok] at hinit
  obtain ⟨-, -, rfl⟩ := hinit
  rfl

lemma Fresh.noSelf (h : Fresh env s) : NoSelf s := by
  obtain ⟨payer, mint, params, tokens, hinit⟩ := h.initialized
  simp only [initializeGar, bind_eq_ok, pure_eq_ok] at hinit
  obtain ⟨-, -, rfl⟩ := hinit
  exact fun _ => rfl

lemma run_stamped (hfresh : Fresh env s₀) (run : Run (GarStep env) s₀ tr s) : Stamped tr s := by
  induction run with
  | nil =>
    intro k g hg
    rw [hfresh.gateways] at hg
    cases hg
  | cons run last ih => exact stamped_step last ih

lemma run_noSelf (hfresh : Fresh env s₀) (run : Run (GarStep env) s₀ tr s) : NoSelf s := by
  induction run with
  | nil => exact hfresh.noSelf
  | cons run last ih =>
    rcases garStep_cases last with ⟨i, -, -, h⟩ | ⟨t, rfl⟩
    · exact (handler_regular h).noSelf ih
    · exact ih

end

/-- **Who may delegate.** In every run a deposit meets the rule of admission exactly when it does
not cancel a withdrawal into an empty delegation that the allowlist keeps out. While the switch of a
gateway is off, each step raises the delegated stake by settled rewards at most, and a step that
turns it on finds no delegated stake and comes at least the withdrawal period after the step that
turned it off. -/
theorem delegation_admitted_iff (env : Env) (s₀ s s' : State) (tr : Trace) (e : Event)
    (hfresh : Fresh env s₀) (run : Run (GarStep env) s₀ tr s) (h : GarStep env s e s') :
    (∀ i k u, e.action = .call i → i.Deposits s k u → (Admits s k u ↔ i.Listed s k u)) ∧
    ∀ k g g', s.gateways k = some g → s'.gateways k = some g' →
      g.settings.allowDelegatedStaking = false →
      (∃ settled, Settles s k g settled ∧
        g'.totalDelegatedStake ≤ g.totalDelegatedStake + settled) ∧
      (g'.settings.allowDelegatedStaking = true →
        g.totalDelegatedStake = 0 ∧ ∀ t, lastDisabled k tr = some t →
          t + s.settings.withdrawalPeriod ≤ e.clock.unixTimestamp) := by
  refine ⟨fun i k u hi hdep => ?_, fun k g g' hg hg' hoff => ?_⟩
  · rcases garStep_cases h with ⟨j, hj, -, h⟩ | ⟨t, rfl⟩
    · obtain rfl : i = j := by simpa [hi] using hj
      exact admits_iff_listed (run_noSelf hfresh run) h hdep
    · simp only [GarStep, Event.exec, hi, Instruction.exec, bind_eq_ok, require_eq_ok,
        exists_const] at h
      exact admits_iff_listed (run_noSelf hfresh run) h.2 hdep
  · obtain ⟨hswitched, hcounter⟩ := garStep_switched h hg hg'
    refine ⟨hcounter hoff, fun hon => ?_⟩
    cases hswitched with
    | held same stamp =>
      rw [hon, hoff] at same
      cases same
    | off was is stamp =>
      rw [hoff] at was
      cases was
    | on was is empty cooled =>
      refine ⟨empty, fun t ht => cooled t ?_⟩
      rw [run_stamped hfresh run k g hg hoff, ht]

namespace SmallNetwork

/-- Delegate 23 has left gateway 21, and then the allowlist is enabled. -/
def keptOut : Script :=
  ⟨[join 21, delegate 23 21 20000000, undelegate 23 21 20000000,
    call 1002 (.setAllowlistEnabled ⟨21⟩ true)], by decide +kernel⟩

/-- Delegate 23 cancels the withdrawal. -/
def cancellation : Instruction := .cancelWithdrawal ⟨23⟩ ⟨21⟩ 0 true

end SmallNetwork

open SmallNetwork in
theorem delegation_admitted_iff_small : ∃ s s', s = after joined.events ∧
    GarStep chain s (delegate 23 21 20000000) s' ∧ Admits s ⟨21⟩ ⟨23⟩ := by
  obtain ⟨tr, run, -⟩ := run_after joined.events joined.works
  set s := after joined.events with hs
  have hworks : (delegate 23 21 20000000).exec chain s
      = .ok (outcome ((delegate 23 21 20000000).exec chain s) s) :=
    eq_ok_outcome (by rw [hs]; unfold after; decide +kernel)
  exact ⟨s, _, rfl, hworks,
    ((delegation_admitted_iff chain start s _ tr _ fresh run hworks).1 _ ⟨21⟩ ⟨23⟩ rfl
      ⟨rfl, rfl⟩).mpr trivial⟩

open SmallNetwork in
/-- A delegate that is on no allowlist comes back by canceling the withdrawal. -/
theorem canceled_past_allowlist : ∃ s s', s = after keptOut.events ∧
    cancellation.exec chain ⟨0, 1003⟩ s = .ok s' ∧ cancellation.Deposits s ⟨21⟩ ⟨23⟩ ∧
    ¬ Admits s ⟨21⟩ ⟨23⟩ := by
  set s := after keptOut.events with hs
  have hworks : cancellation.exec chain ⟨0, 1003⟩ s
      = .ok (outcome (cancellation.exec chain ⟨0, 1003⟩ s) s) :=
    eq_ok_outcome (by rw [hs]; unfold after; decide +kernel)
  have hvault : (s.withdrawals (⟨23⟩, 0)).map (·.isDelegate) = some true := by
    rw [hs]
    unfold after
    decide +kernel
  have hlist : (s.gateways ⟨21⟩).map (·.settings.allowlistEnabled) = some true := by
    rw [hs]
    unfold after
    decide +kernel
  have hempty : ((s.delegations (⟨21⟩, ⟨23⟩)).getD Delegation.zeroed).amount = 0 := by
    rw [hs]
    unfold after
    decide +kernel
  have hentry : (s.allowlist (⟨21⟩, ⟨23⟩)).isSome = false := by
    rw [hs]
    unfold after
    decide +kernel
  refine ⟨s, _, rfl, hworks, ⟨rfl, rfl, Option.map_eq_some_iff.mp hvault⟩, fun hadmits => ?_⟩
  obtain ⟨g, hg, -, -, -, hlisted⟩ := hadmits
  rw [hg] at hlist
  have hsome := hlisted (Option.some.inj hlist) hempty
  rw [hentry] at hsome
  cases hsome

end Gar
end ArioSolana
