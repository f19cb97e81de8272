import ArioSolana.GarFrames
import ArioSolana.GarLocks

/-!
# Disabling the epochs

Disabling is scheduled, and the switch is meant to be thrown by the first creation of an epoch after
the date. But that creation fails, and what it wrote is lost with it. So no epoch is created after
the date, while the settings go on saying that epochs are enabled, unless they are closed and
initialized again.
-/

namespace ArioSolana
namespace Gar

open Checked Solana

/-- The switch of the epochs: whether they are enabled, and the date from which they are not. -/
def State.epochSwitch (s : State) : Option (Bool × ℤ) :=
  s.epochSettings.map fun settings => (settings.enabled, settings.disableAt)

def Instruction.IsCreateEpoch : Instruction → Prop
  | .createEpoch .. => True
  | _ => False

def Instruction.IsSetEpochsEnabled : Instruction → Prop
  | .setEpochsEnabled .. => True
  | _ => False

def Instruction.IsInitializeEpochs : Instruction → Prop
  | .initializeEpochs .. => True
  | _ => False

def Instruction.IsCloseEpochSettings : Instruction → Prop
  | .closeEpochSettings .. => True
  | _ => False

/-- The settings of the epochs were initialized in this history, and not closed after that. -/
def Reinitialized : Trace → Prop
  | [] => False
  | x :: tr => x.label.Calls (·.IsInitializeEpochs) ∨
    Reinitialized tr ∧ ¬ x.label.Calls (·.IsCloseEpochSettings)

section

variable {env : Env} {s s' s₁ s₂ : State} {later : Trace} {e : Event} {clock clock' : Clock}
  {i : Instruction} {authority payer account : Pubkey} {remaining : List AccountMeta} {date : ℤ}

/-- How an instruction may change the settings while they exist: only `set_epochs_enabled` writes to
the switch, only `create_epoch` moves the counter on, the authority sets it from zero, and new
shares make up the whole. -/
structure EpochSettings.Adjusted (old new : EpochSettings) (i : Instruction) : Prop where
  switch : ¬ i.IsSetEpochsEnabled → new.enabled = old.enabled ∧ new.disableAt = old.disableAt
  counter : new.currentEpochIndex = old.currentEpochIndex ∨
    i.IsCreateEpoch ∧ new.currentEpochIndex ≤ old.currentEpochIndex + 1 ∨
    old.currentEpochIndex = 0 ∧ new.currentEpochIndex ≤ 100000
  shares : new.gatewayRewardRatio = old.gatewayRewardRatio ∧
      new.observerRewardRatio = old.observerRewardRatio ∨
    new.gatewayRewardRatio + new.observerRewardRatio = rateScale
  rates : new.maxRewardRate = old.maxRewardRate ∧ new.minRewardRate = old.minRewardRate

/-- **The settings of the epochs** under every instruction that neither makes nor closes them. -/
lemma handler_settings (hinit : ¬ i.IsInitializeEpochs) (hclose : ¬ i.IsCloseEpochSettings)
    (h : i.handler env clock s = .ok s') : s'.epochSettings = s.epochSettings ∨
      ∃ old new, s.epochSettings = some old ∧ s'.epochSettings = some new ∧
        old.Adjusted new i := by
  by_cases he : i.IsEpochOnly
  · cases i <;> try exact he.elim
    all_goals try exact absurd trivial hinit
    all_goals try exact absurd trivial hclose
    all_goals simp only [Instruction.handler] at h
    case setEpochsEnabled authority enabled =>
      simp only [setEpochsEnabled, loadOwnEpochSettings, loadEpochSettings, bind_eq_ok,
        okOr_eq_ok, require_eq_ok, pure_eq_ok, exists_const] at h
      obtain ⟨settings, ⟨_, hs, -, rfl⟩, h⟩ := h
      split at h
      · obtain rfl := pure_eq_ok.mp h
        exact .inr ⟨_, _, hs, rfl, fun hno => absurd trivial hno, .inl rfl, .inl ⟨rfl, rfl⟩,
          rfl, rfl⟩
      · simp only [bind_eq_ok, pure_eq_ok] at h
        obtain ⟨date, -, rfl⟩ := h
        exact .inr ⟨_, _, hs, rfl, fun hno => absurd trivial hno, .inl rfl, .inl ⟨rfl, rfl⟩,
          rfl, rfl⟩
    case createEpoch =>
      obtain ⟨settings, _, _, _, _, _, hs, -, -, -, -, -, -, rfl⟩ := createEpoch_ok h
      exact .inr ⟨_, _, hs, rfl, fun _ => ⟨rfl, rfl⟩, .inr (.inl ⟨trivial, le_rfl⟩),
        .inl ⟨rfl, rfl⟩, rfl, rfl⟩
    case adminSetEpochDuration =>
      simp only [adminSetEpochDuration, loadOwnEpochSettings, loadEpochSettings, bind_eq_ok,
        okOr_eq_ok, require_eq_ok, pure_eq_ok, exists_const] at h
      obtain ⟨settings, ⟨_, hs, -, rfl⟩, -, _, -, _, -, rfl⟩ := h
      exact .inr ⟨_, _, hs, rfl, fun _ => ⟨rfl, rfl⟩, .inl rfl, .inl ⟨rfl, rfl⟩, rfl, rfl⟩
    case adminSetTenureWeight =>
      simp only [adminSetTenureWeight, loadOwnEpochSettings, loadEpochSettings, bind_eq_ok,
        okOr_eq_ok, require_eq_ok, pure_eq_ok, exists_const] at h
      obtain ⟨settings, ⟨_, hs, -, rfl⟩, -, -, rfl⟩ := h
      exact .inr ⟨_, _, hs, rfl, fun _ => ⟨rfl, rfl⟩, .inl rfl, .inl ⟨rfl, rfl⟩, rfl, rfl⟩
    case adminSetRewardRatios =>
      simp only [adminSetRewardRatios, loadOwnEpochSettings, loadEpochSettings, bind_eq_ok,
        okOr_eq_ok, require_eq_ok, pure_eq_ok, add64_eq_ok, exists_const] at h
      obtain ⟨settings, ⟨_, hs, -, rfl⟩, -, -, -, -, _, ⟨-, rfl⟩, hsum, rfl⟩ := h
      exact .inr ⟨_, _, hs, rfl, fun _ => ⟨rfl, rfl⟩, .inl rfl, .inr hsum, rfl, rfl⟩
    case adminSetCurrentEpochIndex =>
      simp only [adminSetCurrentEpochIndex, loadOwnEpochSettings, loadEpochSettings, bind_eq_ok,
        okOr_eq_ok, require_eq_ok, pure_eq_ok, exists_const] at h
      obtain ⟨settings, ⟨_, hs, -, rfl⟩, -, hle, -, hzero, _, -, _, -, rfl⟩ := h
      exact .inr ⟨_, _, hs, rfl, fun _ => ⟨rfl, rfl⟩, .inr (.inr ⟨hzero, hle⟩), .inl ⟨rfl, rfl⟩,
        rfl, rfl⟩
    case transferEpochSettingsAuthority =>
      simp only [transferEpochSettingsAuthority, loadOwnEpochSettings, loadEpochSettings,
        bind_eq_ok, okOr_eq_ok, require_eq_ok, pure_eq_ok, exists_const] at h
      obtain ⟨settings, ⟨_, hs, -, rfl⟩, -, rfl⟩ := h
      exact .inr ⟨_, _, hs, rfl, fun _ => ⟨rfl, rfl⟩, .inl rfl, .inl ⟨rfl, rfl⟩, rfl, rfl⟩
    case prescribeEpoch =>
      obtain ⟨_, _, _, _, _, _, -, -, -, -, -, -, -, -, -, rfl⟩ := prescribeEpoch_ok h
      exact .inl rfl
    case saveObservations =>
      obtain ⟨_, _, _, -, -, -, -, -, -, -, -, -, -, -, rfl⟩ := saveObservations_ok h
      exact .inl rfl
    case closeObservation =>
      obtain ⟨_, _, -, -, -, rfl⟩ := closeObservation_ok h
      exact .inl rfl
    case closeEpoch =>
      obtain ⟨_, _, _, -, -, -, -, -, rfl⟩ := closeEpoch_ok h
      exact .inl rfl
    case adminCloseStaleEpoch =>
      obtain ⟨_, -, -, -, rfl⟩ := adminCloseStaleEpoch_ok h
      exact .inl rfl
    case adminCloseOrphanedEpochRentReceipt =>
      simp only [adminCloseOrphanedEpochRentReceipt, bind_eq_ok, pure_eq_ok] at h
      obtain ⟨_, -, _, -, _, -, rfl⟩ := h
      exact .inl rfl
  · exact .inl (handler_epochFrame he h).1.epochSettings

lemma handler_switch (hset : ¬ i.IsSetEpochsEnabled) (hinit : ¬ i.IsInitializeEpochs)
    (hclose : ¬ i.IsCloseEpochSettings) (h : i.handler env clock s = .ok s') :
    s'.epochSwitch = s.epochSwitch := by
  rcases handler_settings hinit hclose h with hsame | ⟨old, new, hold, hnew, hadj⟩
  · rw [State.epochSwitch, hsame, State.epochSwitch]
  · obtain ⟨henabled, hdate⟩ := hadj.switch hset
    simp only [State.epochSwitch, hold, hnew, Option.map_some, henabled, hdate]

lemma initializeEpochs_switch {params : InitializeEpochParams} {now : ℤ}
    (h : initializeEpochs env now payer params s = .ok s') : s'.epochSwitch = some (false, 0) := by
  simp only [initializeEpochs, bind_eq_ok, pure_eq_ok] at h
  obtain ⟨_, -, _, -, _, -, _, -, rfl⟩ := h
  rfl

lemma closeEpochSettings_switch (h : closeEpochSettings authority s = .ok s') :
    s'.epochSwitch = none := by
  simp only [closeEpochSettings, bind_eq_ok, pure_eq_ok] at h
  obtain ⟨_, -, rfl⟩ := h
  rfl

lemma disable_switch {now : ℤ} (h : setEpochsEnabled now authority false s = .ok s') :
    ∃ enabled, s'.epochSwitch = some (enabled, now + EpochSettings.epochDisableDelay) := by
  simp only [setEpochsEnabled, bind_eq_ok, Bool.false_eq_true, if_false, addTime_eq_ok,
    pure_eq_ok] at h
  obtain ⟨settings, -, _, ⟨-, rfl⟩, rfl⟩ := h
  exact ⟨settings.enabled, rfl⟩

/-! ### After the last call of `set_epochs_enabled` -/

/-- The switch after a history: off for good once the settings were initialized again, else it stays
with its date. -/
structure SwitchedOff (date : ℤ) (later : Trace) (s : State) : Prop where
  settled : Reinitialized later → s.epochSwitch = some (false, 0)
  dated : ¬ Reinitialized later →
    s.epochSwitch = none ∨ ∃ enabled, s.epochSwitch = some (enabled, date)

lemma Event.calls_call {P : Instruction → Prop} :
    Event.Calls ⟨clock, .call i⟩ P ↔ P i := by
  simp only [Event.Calls, Action.call.injEq, exists_eq_left']

lemma SwitchedOff.same (hoff : SwitchedOff date later s)
    (hinit : ¬ e.Calls (·.IsInitializeEpochs)) (hclose : ¬ e.Calls (·.IsCloseEpochSettings))
    (hsame : s'.epochSwitch = s.epochSwitch) : SwitchedOff date (⟨s, e, s'⟩ :: later) s' := by
  have hre : Reinitialized (⟨s, e, s'⟩ :: later) ↔ Reinitialized later := by
    simp only [Reinitialized, hinit, hclose, not_false_eq_true, and_true, false_or]
  refine ⟨fun hyes => hsame.trans (hoff.settled (hre.mp hyes)), fun hno => ?_⟩
  rw [hsame]
  exact hoff.dated fun hyes => hno (hre.mpr hyes)

lemma SwitchedOff.call (hoff : SwitchedOff date later s) (hset : ¬ i.IsSetEpochsEnabled)
    (h : i.handler env clock s = .ok s') :
    SwitchedOff date (⟨s, ⟨clock, .call i⟩, s'⟩ :: later) s' := by
  by_cases hinit : i.IsInitializeEpochs
  · have hre : Reinitialized (⟨s, ⟨clock, .call i⟩, s'⟩ :: later) :=
      .inl (Event.calls_call.mpr hinit)
    cases i <;> try exact hinit.elim
    exact ⟨fun _ => initializeEpochs_switch h, fun hno => absurd hre hno⟩
  by_cases hclose : i.IsCloseEpochSettings
  · have hre : ¬ Reinitialized (⟨s, ⟨clock, .call i⟩, s'⟩ :: later) := by
      rintro (hcall | ⟨-, hcall⟩)
      · exact hinit (Event.calls_call.mp hcall)
      · exact hcall (Event.calls_call.mpr hclose)
    cases i <;> try exact hclose.elim
    exact ⟨fun hyes => absurd hyes hre, fun _ => .inl (closeEpochSettings_switch h)⟩
  · exact hoff.same (Event.calls_call.not.mpr hinit) (Event.calls_call.not.mpr hclose)
      (handler_switch hset hinit hclose h)

lemma SwitchedOff.step (hoff : SwitchedOff date later s)
    (hset : ¬ e.Calls (·.IsSetEpochsEnabled)) (h : GarStep env s e s') :
    SwitchedOff date (⟨s, e, s'⟩ :: later) s' := by
  obtain ⟨clock, action⟩ := e
  simp only [GarStep, Event.exec] at h
  cases action with
  | call i =>
    simp only [Instruction.exec, bind_eq_ok, require_eq_ok, exists_const] at h
    exact hoff.call (Event.calls_call.not.mp hset) h.2
  | walletTransfer source destination signer amount =>
    simp only [bind_eq_ok, require_eq_ok, splTransfer_eq_ok, exists_const] at h
    obtain ⟨-, t, -, rfl⟩ := h
    exact hoff.same (by simp [Event.Calls]) (by simp [Event.Calls]) rfl
  | openTokenAccount key mint owner =>
    simp only [bind_eq_ok, pure_eq_ok] at h
    obtain ⟨_, -, rfl⟩ := h
    exact hoff.same (by simp [Event.Calls]) (by simp [Event.Calls]) rfl

lemma run_switchedOff
    (h : GarStep env s ⟨clock, .call (.setEpochsEnabled authority false)⟩ s₁)
    (run : Run (GarStep env) s₁ later s₂) (hset : later.Avoids (·.IsSetEpochsEnabled)) :
    SwitchedOff (clock.unixTimestamp + EpochSettings.epochDisableDelay) later s₂ := by
  induction run with
  | nil =>
    simp only [GarStep, Event.exec, Instruction.exec, bind_eq_ok, require_eq_ok,
      exists_const] at h
    exact ⟨fun hre => hre.elim, fun _ => .inr (disable_switch h.2)⟩
  | cons run last ih =>
    exact (ih fun x hx => hset x (List.mem_cons_of_mem _ hx)).step (hset _ List.mem_cons_self) last

lemma SwitchedOff.createEpoch_fails (hoff : SwitchedOff date later s) (hpos : 0 < date)
    (hdate : date ≤ clock.unixTimestamp) :
    createEpoch env clock payer account remaining s ≠ .ok s' := by
  intro h
  simp only [createEpoch, bind_eq_ok, loadEpochSettings, okOr_eq_ok, require_eq_ok,
    exists_const] at h
  obtain ⟨settings, hs, -, -, -, -, hen, hopen, -⟩ := h
  have hswitch : s.epochSwitch = some (settings.enabled, settings.disableAt) := by
    rw [State.epochSwitch, hs, Option.map_some]
  by_cases hre : Reinitialized later
  · have hoff := hswitch.symm.trans (hoff.settled hre)
    simp only [Option.some.injEq, Prod.mk.injEq, hen, Bool.true_eq_false, false_and] at hoff
  · rcases hoff.dated hre with hnone | ⟨enabled, hsome⟩
    · rw [hswitch] at hnone
      cases hnone
    · have hsame := hswitch.symm.trans hsome
      simp only [Option.some.injEq, Prod.mk.injEq] at hsame
      exact hopen ⟨by omega, by omega⟩

/-- **Disabling the epochs.** After the last call of `set_epochs_enabled`, which disables, no epoch
is created from its date on. An attempt to create one fails then, and it leaves the settings
disabled and without a date exactly when they were closed and initialized again in between. -/
theorem disabled_settles_iff (hpos : 0 ≤ clock.unixTimestamp)
    (h : GarStep env s ⟨clock, .call (.setEpochsEnabled authority false)⟩ s₁)
    (run : Run (GarStep env) s₁ later s₂) (hset : later.Avoids (·.IsSetEpochsEnabled)) :
    (∀ x ∈ later, x.label.Calls (·.IsCreateEpoch) → x.label.clock.unixTimestamp
      < clock.unixTimestamp + EpochSettings.epochDisableDelay) ∧
    ∀ clock' payer account remaining,
      clock.unixTimestamp + EpochSettings.epochDisableDelay ≤ clock'.unixTimestamp →
      let attempt := Event.exec env s₂ ⟨clock', .call (.createEpoch payer account remaining)⟩
      attempt.isOk = false ∧
        ((outcome attempt s₂).epochSwitch = some (false, 0) ↔ Reinitialized later) := by
  have hdate : 0 < clock.unixTimestamp + EpochSettings.epochDisableDelay := by
    unfold EpochSettings.epochDisableDelay
    omega
  refine ⟨fun x hx hcreate => ?_, fun clock' payer account remaining hlate => ?_⟩
  · obtain ⟨earlier, run', hstep, hsuffix⟩ := run.of_mem hx
    have hoff := run_switchedOff h run' fun y hy =>
      hset y (hsuffix.subset (List.mem_cons_of_mem _ hy))
    obtain ⟨i, hi, hcreate⟩ := hcreate
    rw [GarStep, Event.exec, hi] at hstep
    simp only [Instruction.exec, bind_eq_ok, require_eq_ok, exists_const] at hstep
    cases i <;> try exact hcreate.elim
    exact not_le.mp fun hle => hoff.createEpoch_fails hdate hle hstep.2
  · have hoff := run_switchedOff h run hset
    intro attempt
    have hfails : attempt.isOk = false := by
      cases hres : attempt with
      | error e => rfl
      | ok s' =>
        simp only [attempt, Event.exec, Instruction.exec, bind_eq_ok, require_eq_ok,
          exists_const] at hres
        exact absurd hres.2 (hoff.createEpoch_fails hdate hlate)
    have hkept : outcome attempt s₂ = s₂ := by
      cases hres : attempt with
      | error e => rfl
      | ok s' =>
        rw [hres] at hfails
        cases hfails
    rw [hkept]
    refine ⟨hfails, fun hsettled => ?_, hoff.settled⟩
    by_contra hno
    rcases hoff.dated hno with hnone | ⟨enabled, hsome⟩
    · rw [hnone] at hsettled
      cases hsettled
    · have hzero := (Prod.mk.inj (Option.some.inj (hsome.symm.trans hsettled))).2
      omega

end

namespace SmallNetwork

def setEpochs (time : ℤ) (enabled : Bool) : Event :=
  ⟨⟨0, time⟩, .call (.setEpochsEnabled ⟨4⟩ enabled)⟩

/-- Epochs are enabled, and disabled again. -/
def disabled :
    Script := ⟨[initEpochs, setEpochs 1000 true, setEpochs 1001 false], by decide +kernel⟩

def enabled : Script := ⟨[initEpochs, setEpochs 1000 true], by decide +kernel⟩

/-- The settings are closed, and initialized again. -/
def reset : List Event := [⟨⟨0, 1002⟩, .call (.closeEpochSettings ⟨4⟩)⟩, initEpochs]

/-- The first creation of an epoch after the date. -/
def lateCreation : Event := ⟨⟨0, 605801⟩, .call (.createEpoch ⟨21⟩ ⟨12⟩ [])⟩

end SmallNetwork

lemma reinitialized_of_labels {tr : Trace} {e : Event} {es : List Event}
    (hl : tr.map (·.label) = e :: es) (he : e.Calls (·.IsInitializeEpochs)) :
    Reinitialized tr := by
  cases tr with
  | nil => cases hl
  | cons x tr =>
    obtain ⟨rfl, -⟩ := List.cons.inj hl
    exact .inl he

open SmallNetwork in
theorem disabled_settles_small : ∃ s tr s' later s₂, Run (GarStep chain) start tr s ∧
    GarStep chain s (setEpochs 1001 false) s' ∧ Run (GarStep chain) s' later s₂ ∧
    later.map (·.label) = reset.reverse ∧
    (outcome (lateCreation.exec chain s₂) s₂).epochSwitch = some (false, 0) := by
  obtain ⟨tr, run, -⟩ := run_after enabled.events enabled.works
  set s := after enabled.events with hs
  have last : GarStep chain s (setEpochs 1001 false)
      (outcome ((setEpochs 1001 false).exec chain s) s) :=
    eq_ok_outcome (by rw [hs]; unfold after; decide +kernel)
  set s' := outcome ((setEpochs 1001 false).exec chain s) s with hs'
  obtain ⟨later, run', hl⟩ : ∃ later : Trace, Run (GarStep chain) s' later
      (outcome (runAll (Event.exec chain) s' reset) s') ∧ later.map (·.label) = reset.reverse :=
    run_outcome (by rw [hs', hs]; unfold after; decide +kernel)
  have hinit : Reinitialized later := reinitialized_of_labels hl ⟨_, rfl, trivial⟩
  have havoid : later.Avoids (·.IsSetEpochsEnabled) := avoids_of_labels hl (by
    simp [reset, initEpochs, Instruction.IsSetEpochsEnabled])
  have hsettled := ((disabled_settles_iff (by decide) last run' havoid).2 lateCreation.clock ⟨21⟩
    ⟨12⟩ [] (by decide)).2.mpr hinit
  exact ⟨s, tr, s', later, _, run, last, run', hl, hsettled⟩

open SmallNetwork in
/-- The creation after the date fails, and the settings go on saying that epochs are enabled. -/
theorem disabled_unsettled : ∃ tr s, Run (GarStep chain) start tr s ∧
    tr.map (·.label) = [setEpochs 1001 false, setEpochs 1000 true, initEpochs] ∧
    (lateCreation.exec chain s).isOk = false ∧
    1001 + EpochSettings.epochDisableDelay ≤ lateCreation.clock.unixTimestamp ∧
    (outcome (lateCreation.exec chain s) s).epochSwitch = some (true, 605801) := by
  obtain ⟨tr, run, hl⟩ := run_after disabled.events disabled.works
  have hlate : (lateCreation.exec chain (after disabled.events)).isOk = false ∧
      (outcome (lateCreation.exec chain (after disabled.events))
        (after disabled.events)).epochSwitch = some (true, 605801) := by
    unfold after
    decide +kernel
  exact ⟨tr, _, run, hl, hlate.1, by decide, hlate.2⟩

end Gar
end ArioSolana
