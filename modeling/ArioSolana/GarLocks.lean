import ArioSolana.GarVaults

/-!
# The locks of withdrawals

The protected withdrawal of an operator that departed stays as it is until its time has come: the
gateway is leaving for at least as long, so that nobody can cancel the withdrawal, and it is not
empty. Only a funding plan gets past this, since a plan does not look at the protection. The other
withdrawals keep their dates, and the id of a withdrawal is never used again.
-/

namespace ArioSolana
namespace Gar

open Checked Solana

/-- The step leaves alone each protected withdrawal whose time has not come. -/
def KeepsProtected (x : Step State Event) : Prop :=
  ∀ u id w, x.before.withdrawals (u, id) = some w → w.isProtected = true →
    x.label.clock.unixTimestamp < w.availableAt → x.after.withdrawals (u, id) = some w

/-- The step is no funding plan that draws on a protected withdrawal whose time has not come. -/
def SparesProtected (x : Step State Event) : Prop :=
  ∀ u id w, x.before.withdrawals (u, id) = some w → w.isProtected = true →
    x.label.clock.unixTimestamp < w.availableAt → ¬ x.label.Calls (·.DrawsOn u id)

section

variable {env : Env} {s s' s₀ : State} {tr : Trace} {e : Event} {u : Pubkey} {id : WithdrawalId}
  {w : Withdrawal} {draws : Pubkey → WithdrawalId → Prop} {now now' : ℤ}

lemma garStep_vaults (h : GarStep env s e s') :
    VaultStep (fun u id => e.Calls (·.DrawsOn u id)) e.clock.unixTimestamp s s' := by
  rcases garStep_cases h with ⟨i, hi, -, h⟩ | ⟨t, rfl⟩
  · exact (handler_vaults h).mono fun u id hdraw => ⟨i, hi, hdraw⟩
  · exact .idle (.of_eq rfl) rfl rfl

lemma garStep_lowers (h : GarStep env s e s') (hdraw : e.Calls (·.DrawsOn u id))
    (hw : s.withdrawals (u, id) = some w) : s'.withdrawals (u, id) ≠ some w := by
  obtain ⟨i, hi, hdraw⟩ := hdraw
  rw [GarStep, Event.exec, hi] at h
  simp only [Instruction.exec, bind_eq_ok, require_eq_ok, exists_const] at h
  exact handler_lowers h.2 hdraw hw

/-! ### Protected withdrawals -/

/-- A withdrawal that is not empty, at a gateway that is leaving for at least as long. -/
structure Withdrawal.Secured (w : Withdrawal) (s : State) : Prop where
  nonempty : 0 < w.amount
  fits : w.availableAt < 2 ^ 63
  leaving : ∃ t, s.leavingSince w.gateway = some t ∧ w.availableAt ≤ t + gatewayLeavePeriod

/-- Each protected withdrawal is secured until its time has come. -/
def ProtectedSecured (now : ℤ) (s : State) : Prop :=
  ∀ u id w, s.withdrawals (u, id) = some w → w.isProtected = true →
    w.availableAt ≤ now ∨ w.Secured s

/-- A secured withdrawal is still secured after a step, unless its time has come. -/
lemma Withdrawal.Secured.step (h : w.Secured s) (hstep : VaultStep draws now s s') :
    w.availableAt ≤ now ∨ w.Secured s' := by
  obtain ⟨hpos, hfits, t, ht, hle⟩ := h
  rcases hstep.leaving _ t ht with ht' | hover
  · exact .inr ⟨hpos, hfits, t, ht', hle⟩
  · exact .inl (by omega)

lemma Withdrawal.Secured.kept (h : w.Secured s) (hstep : VaultStep draws now s s')
    (hw : s.withdrawals (u, id) = some w) (hprot : w.isProtected = true)
    (hlocked : now < w.availableAt) (hspare : ¬ draws u id) : s'.withdrawals (u, id) = some w := by
  cases hstep.vault u id with
  | same same => rw [same, hw]
  | created absent =>
    rw [hw] at absent
    cases absent
  | drawn was covered left gate =>
    obtain rfl := Option.some.inj (hw.symm.trans was)
    exact absurd (gate hprot) hspare
  | closed was gone reason =>
    obtain rfl := Option.some.inj (hw.symm.trans was)
    rcases reason with hready | hplain | hempty | ⟨g, hg, hst⟩
    · omega
    · rw [hprot] at hplain
      cases hplain
    · exact absurd h.nonempty (by omega)
    · obtain ⟨t, ht, -⟩ := h.leaving
      rw [State.leavingSince, hg, Option.bind_some, leavingSince_of_joined hst] at ht
      cases ht

lemma ProtectedSecured.step (h : ProtectedSecured now s) (hle : now ≤ now')
    (hstep : VaultStep draws now' s s')
    (hspare : ∀ u id w, s.withdrawals (u, id) = some w → w.isProtected = true →
      now' < w.availableAt → ¬ draws u id) : ProtectedSecured now' s' := by
  intro u id w hw hprot
  cases hstep.vault u id with
  | same same =>
    rw [same] at hw
    rcases h u id w hw hprot with hready | hsecured
    · exact .inl (hready.trans hle)
    · exact hsecured.step hstep
  | created absent present next counted born exit =>
    obtain rfl := Option.some.inj (hw.symm.trans present)
    obtain ⟨hpos, hfits, hsince⟩ := exit hprot
    refine .inr ⟨hpos, hfits, now', hsince, ?_⟩
    rw [born.lock hpos, if_pos hprot]
  | drawn was covered left gate =>
    obtain rfl := Option.some.inj (hw.symm.trans left)
    -- It was drawn on, so its time had come.
    exact .inl (not_lt.mp fun hlocked => hspare u id _ was hprot hlocked (gate hprot))
  | closed was gone =>
    rw [gone] at hw
    cases hw

lemma Fresh.withdrawals (h : Fresh env s) : s.withdrawals = fun _ => none := by
  obtain ⟨payer, mint, params, tokens, hinit⟩ := h.initialized
  simp only [initializeGar, bind_eq_ok, pure_eq_ok] at hinit
  obtain ⟨-, -, rfl⟩ := hinit
  rfl

lemma Timely.le {x : Step State Event} (h : Timely (x :: tr)) :
    ∀ y ∈ tr, y.label.clock.unixTimestamp ≤ x.label.clock.unixTimestamp :=
  (List.pairwise_cons.mp h).1

lemma run_protectedSecured (hfresh : Fresh env s₀) (run : Run (GarStep env) s₀ tr s)
    (htime : Timely tr) (hspare : ∀ x ∈ tr, SparesProtected x)
    (hnow : ∀ x ∈ tr, x.label.clock.unixTimestamp ≤ now) : ProtectedSecured now s := by
  induction run generalizing now with
  | nil =>
    intro u id w hw
    rw [hfresh.withdrawals] at hw
    cases hw
  | cons run last ih =>
    have hbefore := ih (List.pairwise_cons.mp htime).2
      (fun x hx => hspare x (List.mem_cons_of_mem _ hx)) htime.le
    have hafter := hbefore.step le_rfl (garStep_vaults last) (hspare _ List.mem_cons_self)
    intro u id w hw hprot
    exact (hafter u id w hw hprot).imp_left fun hready => hready.trans (hnow _ List.mem_cons_self)

/-- **Protected withdrawals.** In every timely history the steps leave alone all protected
withdrawals whose time has not come exactly when none of the steps is a funding plan that draws on
one of them. -/
theorem protected_kept_iff (hfresh : Fresh env s₀) (run : Run (GarStep env) s₀ tr s)
    (htime : Timely tr) : (∀ x ∈ tr, KeepsProtected x) ↔ ∀ x ∈ tr, SparesProtected x := by
  induction run with
  | nil => simp
  | cons run last ih =>
    have htail := (List.pairwise_cons.mp htime).2
    rw [List.forall_mem_cons, List.forall_mem_cons, ih htail]
    refine and_congr_left fun hspare => ⟨fun hkeep u id w hw hprot hlocked hdraw => ?_,
      fun hlast u id w hw hprot hlocked => ?_⟩
    · exact garStep_lowers last hdraw hw (hkeep u id w hw hprot hlocked)
    · have hsecured := (run_protectedSecured hfresh run htail hspare htime.le u id w hw
        hprot).resolve_left (not_le.mpr hlocked)
      exact hsecured.kept (garStep_vaults last) hw hprot hlocked (hlast u id w hw hprot hlocked)

end

lemma timely_of_labels {tr : Trace} {es : List Event} (hl : tr.map (·.label) = es.reverse)
    (h : es.Pairwise fun e e' => e.clock.unixTimestamp ≤ e'.clock.unixTimestamp) : Timely tr := by
  have hrev := List.pairwise_reverse.mpr h
  rw [← hl, List.pairwise_map] at hrev
  exact hrev

namespace SmallNetwork

/-- Operator 21 leaves and cashes the withdrawal that is not protected. -/
def departed : Script :=
  ⟨[initEpochs, join 21, join 22, leave 21 [],
    ⟨⟨0, 1004⟩, .call (.instantWithdrawal ⟨21⟩ 1 ⟨11⟩ ⟨31⟩ ⟨12⟩)⟩], by decide +kernel⟩

/-- Operator 21 pays the whole protected withdrawal to the treasury. -/
def drainPlan : Event :=
  ⟨⟨0, 1005⟩, .call (.payFromFundingPlan ⟨21⟩ ⟨11⟩ ⟨12⟩ none [⟨.withdrawal ⟨21⟩ 0, true⟩]
    [⟨.withdrawal, 20000000000⟩] 20000000000 0)⟩

end SmallNetwork

open SmallNetwork in
theorem protected_kept_iff_small : ∃ tr, Run (GarStep chain) start tr (after departed.events) ∧
    tr.map (·.label) = departed.events.reverse ∧ ∀ x ∈ tr, KeepsProtected x := by
  obtain ⟨tr, run, hl⟩ := run_after departed.events departed.works
  have htime := timely_of_labels hl (by decide)
  have hplans : tr.Avoids fun i => ∃ u id, i.DrawsOn u id := avoids_of_labels hl (by
    simp [departed, initEpochs, join, leave, Instruction.DrawsOn])
  refine ⟨tr, run, hl, (protected_kept_iff fresh run htime).mpr
    fun x hx u id w hw hprot hlocked => ?_⟩
  rintro ⟨i, hi, hdraw⟩
  exact hplans x hx ⟨i, hi, u, id, hdraw⟩

open SmallNetwork in
/-- A plan empties the protected withdrawal two seconds after the departure. -/
theorem protected_drained : ∃ tr s s' w, Run (GarStep chain) start tr s ∧
    GarStep chain s drainPlan s' ∧ s.withdrawals (⟨21⟩, 0) = some w ∧ w.isProtected = true ∧
    drainPlan.clock.unixTimestamp < w.availableAt ∧ w.amount = 20000000000 ∧
    s'.withdrawals (⟨21⟩, 0) = some { w with amount := 0 } := by
  obtain ⟨tr, run, -⟩ := run_after departed.events departed.works
  set s := after departed.events with hs
  have hworks : drainPlan.exec chain s = .ok (outcome (drainPlan.exec chain s) s) :=
    eq_ok_outcome (by rw [hs]; unfold after; decide +kernel)
  have hvault : (s.withdrawals (⟨21⟩, 0)).map (fun w => (w.isProtected, w.availableAt, w.amount))
        = some (true, 7777003, 20000000000) ∧
      (outcome (drainPlan.exec chain s) s).withdrawals (⟨21⟩, 0)
        = (s.withdrawals (⟨21⟩, 0)).map fun w => { w with amount := 0 } := by
    rw [hs]
    unfold after
    decide +kernel
  obtain ⟨hbefore, hafter⟩ := hvault
  obtain ⟨w, hw, hfields⟩ := Option.map_eq_some_iff.mp hbefore
  simp only [Prod.mk.injEq] at hfields
  obtain ⟨hprot, hready, hamount⟩ := hfields
  refine ⟨tr, s, _, w, run, hworks, hw, hprot, ?_, hamount, ?_⟩
  · rw [hready]
    decide
  · rw [hafter, hw]
    rfl

end Gar
end ArioSolana
