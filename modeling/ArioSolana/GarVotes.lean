import ArioSolana.GarOpenEpoch

/-!
# Votes

Each prescribed observer may report on an epoch once while it runs, with one bit for each gateway
that the epoch counts. Of the reports the epoch keeps counters only: how many there are, who sent
one, and how often each gateway failed. Along any run these counters are what the accepted reports
say, and a distribution scores each gateway by the strict majority of them. -/

namespace ArioSolana
namespace Gar

open Checked Solana Finset

/-- A report: who sent it, and its bits. -/
structure Report where
  observer : Pubkey
  results : BitVec 3000

/-- The reports on an epoch that were accepted since its account was made, newest first. -/
def reports (index : ℕ) : Trace → List Report
  | [] => []
  | x :: earlier =>
    if (x.before.epochs index).isNone then []
    else match x.label.action with
      | .call (.saveObservations observer n results _ _) =>
        if n = index then ⟨observer, results⟩ :: reports index earlier else reports index earlier
      | _ => reports index earlier

/-- How many reports say that the gateway in a slot failed. -/
def failures (rs : List Report) (slot : ℕ) : ℕ := rs.countP fun r => !r.results.getLsbD slot

/-- Someone with a position among the prescribed observers has reported. -/
def Epoch.HasReport (epoch : Epoch) (rs : List Report) (j : ℕ) : Prop :=
  ∃ r ∈ rs, position epoch.prescribedObservers epoch.observerCount r.observer = some j

/-- The counters of an epoch say what the reports say. -/
structure Epoch.Counts (epoch : Epoch) (rs : List Report) : Prop where
  submitted : epoch.observationsSubmitted = rs.length
  once : (rs.map (·.observer)).Nodup
  seats : epoch.observerCount ≤ 50
  prescribed : ∀ r ∈ rs, ∃ j < epoch.observerCount, epoch.prescribedObservers j = r.observer
  observed : ∀ j, epoch.isObserved j = true ↔ epoch.HasReport rs j
  failed : ∀ slot, epoch.failureCounts slot =
    if slot < epoch.activeGatewayCount ∧ slot < 3000 then failures rs slot else 0

/-- An instruction that reports on the epoch. -/
def Instruction.ReportsOn (index : ℕ) : Instruction → Prop
  | .saveObservations _ n .. => n = index
  | _ => False

section

variable {env : Env} {s s' s₀ : State} {index n : ℕ} {now now' : ℤ} {epoch epoch' : Epoch}
  {rs : List Report} {u : Pubkey} {remaining : List AccountMeta} {i : Instruction} {clock : Clock}
  {tr : Trace} {e : Event} {results : BitVec 3000} {count : ℕ} {txId : Hash}

/-! ### The reports of a trace -/

lemma reports_of_none (hnone : s.epochs index = none) : reports index (⟨s, e, s'⟩ :: tr) = [] := by
  rw [reports, hnone]
  rfl

lemma reports_save (he : s.epochs index = some epoch) :
    reports index (⟨s, ⟨clock, .call (.saveObservations u index results count txId)⟩, s'⟩ :: tr) =
      ⟨u, results⟩ :: reports index tr := by
  simp [reports, he]

lemma reports_other (he : s.epochs index = some epoch)
    (hother : ∀ i, e.action = .call i → ¬ i.ReportsOn index) :
    reports index (⟨s, e, s'⟩ :: tr) = reports index tr := by
  rw [reports, he]
  simp only [Option.isNone_some, Bool.false_eq_true, if_false]
  split
  · rename_i observer n results count txId hcall
    exact if_neg (hother _ hcall)
  · rfl

/-! ### Bits -/

lemma isObserved_setObserved {idx j : ℕ} (hidx : idx < 50) :
    (epoch.setObserved idx).isObserved j = true ↔ j = idx ∨ epoch.isObserved j = true := by
  unfold Epoch.setObserved Epoch.isObserved
  rw [if_pos hidx]
  by_cases hj : j < 50
  · simp only [if_pos hj, BitVec.getLsbD_or, Bool.or_eq_true, BitVec.getLsbD_twoPow,
      Bool.and_eq_true, decide_eq_true_eq]
    constructor
    · rintro (h | ⟨-, h⟩)
      · exact .inr h
      · exact .inl h.symm
    · rintro (h | h)
      · exact .inr ⟨by omega, h.symm⟩
      · exact .inl h
  · simp only [if_neg hj, Bool.false_eq_true, or_false, false_iff]
    omega

lemma failures_cons (r : Report) (slot : ℕ) :
    failures (r :: rs) slot = failures rs slot + if r.results.getLsbD slot = false then 1 else
        0 := by
  unfold failures
  rw [List.countP_cons]
  cases r.results.getLsbD slot <;> rfl

lemma failures_le (slot : ℕ) : failures rs slot ≤ rs.length := List.countP_le_length

/-! ### Counting -/

namespace Epoch.Counts

lemma observed_card (h : epoch.Counts rs) :
    ((range epoch.observerCount).filter fun j => epoch.isObserved j = true).card = rs.length := by
  have hseat : ∀ r ∈ rs, ∃ j, position epoch.prescribedObservers epoch.observerCount r.observer =
      some j := by
    intro r hr
    obtain ⟨j, hj, hat⟩ := h.prescribed r hr
    refine Option.isSome_iff_exists.mp ?_
    unfold position
    rw [List.find?_isSome]
    exact ⟨j, List.mem_range.mpr hj, by simp [hat]⟩
  choose! seat hseat using hseat
  have himage : ((range epoch.observerCount).filter fun j => epoch.isObserved j = true)
      = (rs.map seat).toFinset := by
    ext j
    simp only [mem_filter, mem_range, List.mem_toFinset, List.mem_map, h.observed, HasReport]
    constructor
    · rintro ⟨-, r, hr, hj⟩
      exact ⟨r, hr, Option.some.inj ((hseat r hr).symm.trans hj)⟩
    · rintro ⟨r, hr, rfl⟩
      exact ⟨(position_some (hseat r hr)).1, r, hr, hseat r hr⟩
  have hnodup : (rs.map seat).Nodup := by
    refine List.Nodup.of_map epoch.prescribedObservers ?_
    have hsame : rs.map (epoch.prescribedObservers ∘ seat) = rs.map (·.observer) :=
      List.map_congr_left fun r hr => (position_some (hseat r hr)).2
    rw [List.map_map, hsame]
    exact h.once
  rw [himage, List.toFinset_card_of_nodup hnodup, List.length_map]

lemma length_le (h : epoch.Counts rs) : rs.length ≤ epoch.observerCount := by
  rw [← h.observed_card]
  exact (card_filter_le _ _).trans (card_range _).le

lemma fresh (hsub : epoch.observationsSubmitted = 0) (hseats : epoch.observerCount ≤ 50)
    (hbits : ∀ j, epoch.isObserved j = false) (hfail : ∀ slot, epoch.failureCounts slot = 0) :
    epoch.Counts [] where
  submitted := hsub
  once := List.nodup_nil
  seats := hseats
  prescribed r hr := by cases hr
  observed j := by simp [HasReport, hbits j]
  failed slot := by rw [hfail]; split <;> rfl

lemma of_same (h : epoch.Counts rs)
    (hsub : epoch'.observationsSubmitted = epoch.observationsSubmitted)
    (hcount : epoch'.observerCount = epoch.observerCount)
    (hobs : epoch'.prescribedObservers = epoch.prescribedObservers)
    (hbits : epoch'.hasObserved = epoch.hasObserved)
    (hfail : epoch'.failureCounts = epoch.failureCounts)
    (hactive : epoch'.activeGatewayCount = epoch.activeGatewayCount) : epoch'.Counts rs where
  submitted := hsub.trans h.submitted
  once := h.once
  seats := hcount ▸ h.seats
  prescribed := by rw [hcount, hobs]; exact h.prescribed
  observed j := by
    unfold HasReport isObserved
    rw [hbits, hcount, hobs]
    exact h.observed j
  failed slot := by rw [hfail, hactive]; exact h.failed slot

lemma add {idx : ℕ} (results : BitVec 3000) (h : epoch.Counts rs)
    (hnew : ∀ r ∈ rs, r.observer ≠ u)
    (hpos : position epoch.prescribedObservers epoch.observerCount u = some idx) :
    { epoch.setObserved idx with
      failureCounts := fun slot =>
        if slot < epoch.activeGatewayCount ∧ slot / 8 < 375 ∧ results.getLsbD slot = false then
          saturatingAdd 16 (epoch.failureCounts slot) 1
        else epoch.failureCounts slot
      observationsSubmitted := saturatingAdd 8 epoch.observationsSubmitted 1 : Epoch }.Counts
        (⟨u, results⟩ :: rs) := by
  obtain ⟨hidx, hseat⟩ := position_some hpos
  have hseats := h.seats
  have hle := h.length_le
  have hbits : ∀ j, (epoch.setObserved idx).isObserved j = true ↔
      j = idx ∨ epoch.isObserved j = true := fun j => isObserved_setObserved (by omega)
  rw [setObserved_eq] at hbits ⊢
  refine ⟨?_, ?_, hseats, ?_, fun j => ?_, fun slot => ?_⟩
  · show saturatingAdd 8 epoch.observationsSubmitted 1 = rs.length + 1
    rw [h.submitted, saturatingAdd_of_lt (by omega)]
  · refine List.nodup_cons.mpr ⟨fun hu => ?_, h.once⟩
    obtain ⟨r, hr, heq⟩ := List.mem_map.mp hu
    exact hnew r hr heq
  · intro r hr
    rcases List.mem_cons.mp hr with rfl | hr
    · exact ⟨idx, hidx, hseat⟩
    · exact h.prescribed r hr
  · refine (hbits j).trans ?_
    rw [h.observed j]
    constructor
    · rintro (rfl | ⟨r, hr, hj⟩)
      · exact ⟨_, List.mem_cons_self, hpos⟩
      · exact ⟨r, List.mem_cons_of_mem _ hr, hj⟩
    · rintro ⟨r, hr, hj⟩
      rcases List.mem_cons.mp hr with rfl | hr
      · exact .inl (Option.some.inj (hj.symm.trans hpos))
      · exact .inr ⟨r, hr, hj⟩
  · have hfail := h.failed slot
    have hless : failures rs slot ≤ rs.length := failures_le slot
    simp only [failures_cons]
    by_cases hin : slot < epoch.activeGatewayCount ∧ slot < 3000
    · have hword : slot / 8 < 375 := by omega
      rw [if_pos hin] at hfail
      simp only [hin.1, hin.2, hword, and_self, true_and, if_true, hfail]
      split
      · rw [saturatingAdd_of_lt (by omega)]
      · rfl
    · have hout : ¬ (slot < epoch.activeGatewayCount ∧ slot / 8 < 375 ∧
          results.getLsbD slot = false) := fun hall => hin ⟨hall.1, by omega⟩
      simp only [if_neg hin, if_neg hout, hfail]

end Epoch.Counts

/-! ### The steps -/

/-- The counters of an epoch, the accounts of its reports, and how far the epoch has come. -/
structure Epoch.Voted (epoch : Epoch) (rs : List Report) (observers : Finset Pubkey) (now : ℤ) :
    Prop where
  counts : epoch.Counts rs
  kept : epoch.rewardsDistributed = 0 → ∀ r ∈ rs, r.observer ∈ observers
  unprescribed : epoch.prescriptionsDone = 0 → rs = []
  ended : epoch.rewardsDistributed ≠ 0 → epoch.endTimestamp ≤ now
  silent : epoch.rewardsDistributed = 0 → rs = [] → epoch.distributionIndex = 0

/-- The epoch, if it is there, has counted its reports. -/
def Voted (index : ℕ) (now : ℤ) (rs : List Report) (s : State) : Prop :=
  ∀ epoch, s.epochs index = some epoch → epoch.Voted rs (s.observers index) now

lemma distributeEpoch_silent {t : ℤ} {p q : Pubkey} (he : s.epochs n = some epoch)
    (hsub : epoch.observationsSubmitted = 0) (hidx : epoch.distributionIndex = 0)
    (h : distributeEpoch env t n p q remaining s = .ok s') :
    s' = s.setEpoch n (some { epoch with
      distributionIndex := epoch.activeGatewayCount
      rewardsDistributed := 1 }) := by
  obtain ⟨_, epoch', -, he', -, -, -, -, -, ⟨-, -, hs⟩ | ⟨_, _, _, hno, -⟩⟩ := distributeEpoch_ok h
  · rwa [Option.some.inj (he.symm.trans he')]
  · rw [← Option.some.inj (he.symm.trans he')] at hno
    exact absurd ⟨hsub, hidx⟩ hno

namespace Voted

lemma of_same (h : Voted index now rs s) (hE : s'.epochs index = s.epochs index)
    (hO : ∀ u, s'.observations (index, u) = s.observations (index, u)) : Voted index now rs s' := by
  intro epoch he
  rw [observers_congr hO]
  exact h epoch (hE ▸ he)

lemma mono (h : Voted index now rs s) (hle : now ≤ now') : Voted index now' rs s := fun epoch he =>
  { h epoch he with ended := fun hd => ((h epoch he).ended hd).trans hle }

lemma write (hE : s'.epochs = Function.update s.epochs index (some epoch'))
    (h : epoch'.Voted rs (s'.observers index) now) : Voted index now rs s' := by
  intro epoch he
  rw [hE, Function.update_self] at he
  rwa [← Option.some.inj he]

lemma remove (hE : s'.epochs = Function.update s.epochs index none) : Voted index now rs s' := by
  intro epoch he
  rw [hE, Function.update_self] at he
  cases he

lemma elsewhere {x : Option Epoch} (h : Voted index now rs s) (hn : n ≠ index)
    (hE : s'.epochs = Function.update s.epochs n x) (hO : s'.observations = s.observations) :
    Voted index now rs s' :=
  h.of_same (by rw [hE, Function.update_of_ne hn.symm]) fun u => by rw [hO]

lemma create {payer account : Pubkey} (hnone : s.epochs index = none)
    (hc : createEpoch env clock payer account remaining s = .ok s') : Voted index now [] s' := by
  obtain ⟨settings, _, _, _, _, _, -, -, -, -, -, -, -, rfl⟩ := createEpoch_ok hc
  by_cases hn : settings.currentEpochIndex = index
  · subst hn
    refine write rfl ⟨.fresh rfl (Nat.zero_le _) (fun j => ?_) fun _ => rfl,
      fun _ r hr => (by cases hr), fun _ => rfl, fun hd => absurd rfl hd, fun _ _ => rfl⟩
    unfold Epoch.isObserved
    split
    · exact BitVec.getLsbD_zero
    · rfl
  · intro epoch he
    simp only [Function.update_of_ne (Ne.symm hn)] at he
    rw [hnone] at he
    cases he

lemma tally (h : Voted index now rs s)
    (ht : (Instruction.tallyWeights n remaining).handler env clock s = .ok s') :
    Voted index now rs s' := by
  have hO := (handler_epochFrame id ht).1.observations
  obtain ⟨_, epoch, m, w, -, he, -, -, -, hE⟩ := tallyWeights_epochs ht
  by_cases hn : n = index
  · subst hn
    have hv := h epoch he
    have hsame : s'.observers n = s.observers n := observers_congr fun u => by rw [hO]
    refine write hE { hv with
      counts := hv.counts.of_same rfl rfl rfl rfl rfl rfl
      kept := ?_ }
    rw [hsame]
    exact hv.kept
  · exact h.elsewhere hn hE hO

lemma prescribe {names : RawAccount} (h : Voted index now rs s)
    (hp : prescribeEpoch env n remaining names s = .ok s') : Voted index now rs s' := by
  obtain ⟨_, epoch, _, selected, observers, _, -, he, -, hundone, -, -, hsel, -, -, rfl⟩ :=
    prescribeEpoch_ok hp
  by_cases hn : n = index
  · subst hn
    have hv := h epoch he
    obtain rfl := hv.unprescribed hundone
    have hbits : ∀ j, epoch.isObserved j = false := by
      intro j
      have hnone := hv.counts.observed j
      simpa [Epoch.HasReport] using hnone
    have hfail : ∀ slot, epoch.failureCounts slot = 0 := by
      intro slot
      rw [hv.counts.failed slot]
      split <;> rfl
    exact write rfl ⟨.fresh hv.counts.submitted hsel hbits hfail, fun _ r hr => (by cases hr),
      fun _ => rfl, hv.ended, hv.silent⟩
  · exact h.elsewhere hn rfl rfl

lemma distribute {t : ℤ} {p q : Pubkey} (h : Voted index now rs s) (hle : now ≤ t)
    (hd : distributeEpoch env t n p q remaining s = .ok s') : Voted index t rs s' := by
  obtain ⟨hframe, epoch, done, flag, he, -, hend, hopen, hE⟩ := distributeEpoch_written hd
  by_cases hn : n = index
  · subst hn
    have hv := h epoch he
    have hsame : s'.observers n = s.observers n := observers_congr fun u => by
      rw [hframe.observations]
    refine write hE ⟨hv.counts.of_same rfl rfl rfl rfl rfl rfl, fun _ => ?_, hv.unprescribed,
      fun _ => hend, fun hzero hnil => ?_⟩
    · rw [hsame]
      exact hv.kept hopen
    · -- without reports, one call completes the epoch
      have hsub : epoch.observationsSubmitted = 0 := by
        rw [hv.counts.submitted, hnil]
        rfl
      rw [distributeEpoch_silent he hsub (hv.silent hopen hnil) hd, State.setEpoch] at hE
      have hsome := congrFun hE n
      simp only [Function.update_self, Option.some.injEq] at hsome
      have hflag := congrArg Epoch.rewardsDistributed hsome
      exact absurd (hflag.trans hzero) one_ne_zero
  · exact (h.mono hle).elsewhere hn hE hframe.observations

/-- A report on the epoch. It is still running, so all reports on it have their accounts, and the
new one is of someone who had none. -/
lemma save {t : ℤ} (h : Voted index now rs s) (hle : now ≤ t)
    (hs : saveObservations t u index results count txId s = .ok s') :
    Voted index t (⟨u, results⟩ :: rs) s' := by
  obtain ⟨epoch, idx, x, he, hnone, hdone, -, hend, -, -, hpos, -, -, -, rfl⟩ :=
    saveObservations_ok hs
  have hv := h epoch he
  have hopen : epoch.rewardsDistributed = 0 := by
    by_contra hd
    have hover := hv.ended hd
    omega
  have hmem : ∀ r ∈ rs, r.observer ∈ s.observers index := hv.kept hopen
  have hnew : ∀ r ∈ rs, r.observer ≠ u := by
    rintro r hr rfl
    have hsome := hmem r hr
    rw [mem_observers, hnone] at hsome
    cases hsome
  have hcounts := hv.counts.add results hnew hpos
  rw [setObserved_eq] at hcounts ⊢
  refine write rfl ⟨hcounts, fun _ r hr => ?_, fun hno => absurd hno hdone,
    fun hd => absurd hopen hd, fun _ hnil => (by cases hnil)⟩
  rw [mem_observers]
  by_cases hru : r.observer = u
  · simp [hru]
  · have hold := hmem r ((List.mem_cons.mp hr).resolve_left fun heq => hru (by rw [heq]))
    rw [mem_observers] at hold
    simpa [hru] using hold

lemma save_elsewhere {t : ℤ} (h : Voted index now rs s) (hn : n ≠ index)
    (hs : saveObservations t u n results count txId s = .ok s') : Voted index now rs s' := by
  obtain ⟨epoch, idx, x, -, -, -, -, -, -, -, -, -, -, -, rfl⟩ := saveObservations_ok hs
  refine h.of_same (Function.update_of_ne (Ne.symm hn) _ _) fun v => ?_
  exact Function.update_of_ne (by simp [Ne.symm hn]) _ _

lemma closeReport (h : Voted index now rs s) (hs : closeObservation n u s = .ok s') :
    Voted index now rs s' := by
  obtain ⟨epoch, x, he, -, hd, rfl⟩ := closeObservation_ok hs
  by_cases hn : n = index
  · subst hn
    have hv := h epoch he
    exact write rfl ⟨hv.counts.of_same rfl rfl rfl rfl rfl rfl, fun hno => absurd hno hd,
      hv.unprescribed, hv.ended, hv.silent⟩
  · refine h.of_same (Function.update_of_ne (Ne.symm hn) _ _) fun v => ?_
    exact Function.update_of_ne (by simp [Ne.symm hn]) _ _

end Voted

/-- **One instruction on an epoch that is there.** -/
theorem handler_voted (h : Voted index now (reports index tr) s) (hle : now ≤ clock.unixTimestamp)
    (he : s.epochs index = some epoch) (hstep : i.handler env clock s = .ok s') :
    Voted index clock.unixTimestamp (reports index (⟨s, ⟨clock, .call i⟩, s'⟩ :: tr)) s' := by
  have h' := h.mono hle
  by_cases hreport : i.ReportsOn index
  · cases i <;> try exact hreport.elim
    case saveObservations u n results count txId =>
      obtain rfl : n = index := hreport
      rw [reports_save he]
      exact h.save hle hstep
  rw [reports_other he fun i' hi => by rw [← Action.call.inj hi]; exact hreport]
  by_cases hw : i.WritesEpoch
  · cases i <;> try exact hw.elim
    case createEpoch =>
      obtain ⟨settings, _, _, _, _, _, -, hnone, -, -, -, -, -, rfl⟩ := createEpoch_ok hstep
      refine h'.elsewhere ?_ rfl rfl
      rintro rfl
      rw [he] at hnone
      cases hnone
    case tallyWeights => exact h'.tally hstep
    case prescribeEpoch => exact h'.prescribe hstep
    case saveObservations => exact h'.save_elsewhere hreport hstep
    case distributeEpoch => exact h.distribute hle hstep
    case closeObservation => exact h'.closeReport hstep
    case closeEpoch n remaining =>
      obtain ⟨_, _, _, -, -, -, -, -, rfl⟩ := closeEpoch_ok hstep
      by_cases hn : n = index
      · subst hn
        exact .remove rfl
      · exact h'.elsewhere hn rfl rfl
    case adminCloseStaleEpoch authority n =>
      obtain ⟨_, -, -, -, rfl⟩ := adminCloseStaleEpoch_ok hstep
      by_cases hn : n = index
      · subst hn
        exact .remove rfl
      · exact h'.elsewhere hn rfl rfl
  by_cases honly : i.IsEpochOnly
  · obtain ⟨hE, hO, -⟩ := settings_frame honly hw hstep
    exact h'.of_same (by rw [hE]) fun u => by rw [hO]
  · obtain ⟨hframe, hE⟩ := handler_epochFrame honly hstep
    have hb : ¬ i.IsBatch := by
      intro hb
      cases i <;> first | exact hb.elim | exact hw trivial
    exact h'.of_same (by rw [hE hb]) fun u => by rw [hframe.observations]

lemma handler_creates (hnone : s.epochs index = none) (hstep : i.handler env clock s = .ok s') :
    Voted index now [] s' := by
  by_cases hc : i.IsCreateEpoch
  · cases i <;> try exact hc.elim
    exact .create hnone hstep
  · intro epoch he
    obtain ⟨_, hbefore, -⟩ := handler_descends hc hstep index epoch he
    rw [hnone] at hbefore
    cases hbefore

lemma garStep_call (h : GarStep env s ⟨clock, .call i⟩ s') :
    (∀ k ∈ i.signer, env.CanSign k) ∧ i.handler env clock s = .ok s' := by
  simp only [GarStep, Event.exec, Instruction.exec, bind_eq_ok, require_eq_ok, exists_const] at h
  exact h

lemma garStep_transfer (h : GarStep env s e s') (hno : ¬ ∃ i, e.action = .call i) :
    ∃ t, s' = { s with tokens := t } := by
  rcases garStep_cases h with ⟨i, hi, -⟩ | ht
  · exact absurd ⟨i, hi⟩ hno
  · exact ht

theorem run_voted (hfresh : Fresh env s₀) (run : Run (GarStep env) s₀ tr s) (htime : Timely tr)
    (hnow : ∀ x ∈ tr, x.label.clock.unixTimestamp ≤ now) : Voted index now (reports index tr)
        s := by
  induction run generalizing now with
  | nil =>
    intro epoch he
    rw [hfresh.epochs] at he
    cases he
  | @cons tr s e s' run last ih =>
    have hbefore := ih (List.pairwise_cons.mp htime).2 htime.le
    refine Voted.mono ?_ (hnow _ List.mem_cons_self)
    by_cases hcall : ∃ i, e.action = .call i
    · obtain ⟨clock, action⟩ := e
      obtain ⟨i, rfl⟩ := hcall
      cases he : s.epochs index with
      | none =>
        rw [reports_of_none he]
        exact handler_creates he (garStep_call last).2
      | some epoch => exact handler_voted hbefore le_rfl he (garStep_call last).2
    · obtain ⟨t, rfl⟩ := garStep_transfer last hcall
      cases he : s.epochs index with
      | none =>
        intro epoch he'
        rw [show s.epochs index = some epoch from he'] at he
        cases he
      | some epoch =>
        rw [reports_other he fun i hi => absurd ⟨i, hi⟩ hcall]
        exact hbefore.of_same rfl fun _ => rfl

/-! ### Votes -/

lemma Timely.exists_now (htime : Timely tr) :
    ∃ now, ∀ x ∈ tr, x.label.clock.unixTimestamp ≤ now := by
  cases tr with
  | nil => exact ⟨0, fun x hx => by cases hx⟩
  | cons x tr => exact ⟨x.label.clock.unixTimestamp, List.forall_mem_cons.mpr ⟨le_rfl, htime.le⟩⟩

/-- **Votes are counted once.** In every state that is reached with a clock that does not run
backwards, the counters of an epoch say what the accepted reports on it say: how many there are,
each of another prescribed observer, at most as many as there are seats; whose bits are set; and for
each gateway how many of them say that it failed. -/
theorem votes_counted_once (hfresh : Fresh env s₀) (run : Run (GarStep env) s₀ tr s)
    (htime : Timely tr) (he : s.epochs index = some epoch) :
    epoch.Counts (reports index tr) ∧ epoch.observationsSubmitted ≤ epoch.observerCount ∧
      ((range epoch.observerCount).filter fun j => epoch.isObserved j = true).card =
        epoch.observationsSubmitted := by
  obtain ⟨now, hnow⟩ := htime.exists_now
  have hcounts := (run_voted hfresh run htime hnow epoch he).counts
  refine ⟨hcounts, ?_, ?_⟩
  · rw [hcounts.submitted]
    exact hcounts.length_le
  · rw [hcounts.submitted]
    exact hcounts.observed_card

end

open SmallNetwork in
/-- Epoch 0 has one report, that its gateway passed. -/
theorem votes_counted_once_small :
    ∃ tr epoch, Run (GarStep chain) start tr (after observedEpoch.events) ∧
    (after observedEpoch.events).epochs 0 = some epoch ∧ epoch.Counts (reports 0 tr) ∧
    (reports 0 tr).length = 1 := by
  obtain ⟨tr, run, hl⟩ := run_after observedEpoch.events observedEpoch.works
  have hsubmitted : ((after observedEpoch.events).epochs 0).map (·.observationsSubmitted) = some
      1 := by
    unfold after
    decide +kernel
  obtain ⟨epoch, he, hone⟩ := Option.map_eq_some_iff.mp hsubmitted
  obtain ⟨hcounts, -, -⟩ := votes_counted_once fresh run (timely_of_labels hl (by decide)) he
  exact ⟨tr, epoch, run, he, hcounts, hcounts.submitted.symm.trans hone⟩

end Gar
end ArioSolana
