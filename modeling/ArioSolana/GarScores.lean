import ArioSolana.GarVotes

/-!
# Scores

A distribution goes over the slots of an ended epoch in batches, and writes down in the statistics
of each gateway that was active in the epoch whether it failed, whether it was prescribed, and
whether its observer reported. Failed is who failed in more than half of the reports. However the
batches are cut, and whatever happens between them, each gateway is scored once. -/

namespace ArioSolana
namespace Gar

open Checked Solana Finset

/-- Gateways that are there before and after keep their statistics. -/
def KeepsStats (s s' : State) : Prop :=
  ∀ k g g', s.gateways k = some g → s'.gateways k = some g' → g'.stats = g.stats

/-- The gateway was active in the epoch: it is joined, and was weighed for the epoch. -/
structure Gateway.ActiveIn (g : Gateway) (s : State) (index : ℕ) : Prop where
  joined : g.status = .joined
  weight : 0 < (s.registry.gateways g.registryIndex).compositeWeight
  weighed : g.weights.weightsEpoch = index

/-- The statistics of the gateway in a slot after its score: failed by a strict majority of the
reports, prescribed, and reported by the observer that was prescribed for it. -/
def Epoch.Scored (epoch : Epoch) (rs : List Report) (slot : ℕ) (k : Pubkey)
    (stats stats' : GatewayStats) : Prop :=
  stats.Ticked stats' (rs.length < 2 * failures rs slot)
    (∃ j < epoch.observerCount, epoch.prescribedObserverGateways j = k)
    (∃ j, position epoch.prescribedObserverGateways epoch.observerCount k = some j ∧ epoch.HasReport
      rs j)

/-- A batch of the epoch's distribution that covers a slot. -/
def CoversSlot (index slot : ℕ) (x : Step State Event) : Prop :=
  (∃ p q remaining, x.label.action = .call (.distributeEpoch index p q remaining)) ∧
  ∃ epoch epoch', x.before.epochs index = some epoch ∧ x.after.epochs index = some epoch' ∧
    epoch.distributionIndex ≤ slot ∧ slot < epoch'.distributionIndex

section

variable {env : Env} {s s' s₀ s₁ s₂ : State} {index slot m n : ℕ} {now : ℤ} {epoch epoch' : Epoch}
  {rs : List Report} {k : Pubkey} {g g' : Gateway} {remaining : List AccountMeta} {i : Instruction}
  {clock : Clock} {tr later : Trace} {e : Event}

/-! ### Statistics -/

lemma KeepsStats.of_same (hG : ∀ k, s'.gateways k = s.gateways k) : KeepsStats s s' := by
  intro k g g' hg hg'
  rw [hG, hg] at hg'
  rw [Option.some.inj hg']

lemma KeepsStats.of_update {operator : Pubkey} {x : Gateway}
    (hG : s'.gateways = Function.update s.gateways operator (some x))
    (hx : ∀ g, s.gateways operator = some g → x.stats = g.stats) : KeepsStats s s' := by
  intro k g g' hg hg'
  rw [hG] at hg'
  by_cases hk : k = operator
  · subst hk
    rw [Function.update_self] at hg'
    rw [← Option.some.inj hg']
    exact hx g hg
  · rw [Function.update_of_ne hk, hg] at hg'
    rw [Option.some.inj hg']

/-- **Statistics are the distribution's.** No other instruction writes to them. -/
theorem handler_keepsStats (hF : Footing env s) (hR : Registered s)
    (hd : ∀ n p q remaining, i ≠ .distributeEpoch n p q remaining)
    (h : i.handler env clock s = .ok s') : KeepsStats s s' := by
  by_cases hepoch : i.IsEpochOnly
  · obtain ⟨_, _, _, _, rfl⟩ := handler_epochOnly hepoch h
    exact .of_same fun _ => rfl
  by_cases hb : i.IsBatch
  · cases i <;> try exact hb.elim
    case tallyWeights index remaining =>
      obtain ⟨settings, epoch, s₁, epoch', -, -, -, -, -, hb, rfl⟩ := tallyWeights_ok h
      intro k g g' hg hg'
      have hgws := (tallyBatch_weighed hR hb).2 k g hg
      have hat : s₁.gateways k = some g' := hg'
      by_cases hin : epoch.tallyIndex ≤ g.registryIndex ∧ g.registryIndex < epoch'.tallyIndex
      · rcases hgws.2 hin.1 hin.2 with ⟨-, hsame, -⟩ | ⟨-, weights, w, hsame, -⟩
        · rw [hsame] at hat
          rw [Option.some.inj hat]
        · rw [hsame] at hat
          rw [← Option.some.inj hat]
          rfl
      · rw [hgws.1 (by omega)] at hat
        rw [Option.some.inj hat]
    case distributeEpoch n p q remaining => exact absurd rfl (hd n p q remaining)
  by_cases hl : i.IsLifecycle
  · cases i <;> try exact hl.elim
    all_goals simp only [Instruction.handler] at h
    case joinNetwork operator account pool params =>
      obtain ⟨g, t, hnone, -, -, -, -, -, -, -, -, -, -, -, -, -, -, -, -, rfl⟩ := joinNetwork_ok h
      refine .of_update rfl fun x hx => ?_
      rw [hnone] at hx
      cases hx
    case leaveNetwork operator excess remaining =>
      obtain ⟨g, settings, C, W, L, hg, -, -, -, -, -, -, -, rfl⟩ := leaveNetwork_ok h
      refine .of_update rfl fun x hx => ?_
      obtain rfl := Option.some.inj (hg.symm.trans hx)
      rfl
    case pruneGateway operator pool treasury excess remaining =>
      obtain ⟨g, settings, slash, C, W, L, t, hg, -, -, -, -, -, -, -, -, -, -, rfl⟩ :=
        pruneGateway_ok h
      refine .of_update rfl fun x hx => ?_
      obtain rfl := Option.some.inj (hg.symm.trans hx)
      rfl
    case finalizeGone operator remaining =>
      obtain ⟨g, settings, s₁, hg, -, -, -, -, -, -, -, -, hmove, rfl⟩ := finalizeGone_ok h
      have hmoved : KeepsStats s s₁ := by
        rcases moveLastSlot_ok hmove with ⟨-, rfl⟩ | ⟨x, -, hx, rfl⟩
        · exact .of_same fun _ => rfl
        · refine .of_update rfl fun y hy => ?_
          obtain rfl := Option.some.inj (hx.symm.trans hy)
          rfl
      intro k y y' hy hy'
      by_cases hk : k = operator
      · subst hk
        simp only [Function.update_self] at hy'
        cases hy'
      · simp only [Function.update_of_ne hk] at hy'
        exact hmoved k y y' hy hy'
    case updateObserverAddress operator newObserver =>
      obtain ⟨g, hg, -, -, -, -, -, rfl⟩ := updateObserverAddress_ok h
      refine .of_update rfl fun x hx => ?_
      obtain rfl := Option.some.inj (hg.symm.trans hx)
      rfl
  · have hquiet := (handler_quiet hF hepoch hb hl h).shells
    intro k g g' hg hg'
    have hshell := congrFun hquiet k
    rw [State.shells, State.shells, hg, hg'] at hshell
    exact congrArg Shell.stats (Option.some.inj hshell)

/-- What the first pass finds out about the gateway in a slot is what the reports say. -/
lemma scanSlot_scored {rate : ℕ} {x : PendingDistribution} {info : AccountMeta}
    (hcounts : epoch.Counts rs) (hactive : slot < epoch.activeGatewayCount) (hslot : slot < 3000)
    (h : scanSlot s epoch rate slot info = .ok x) (stats : GatewayStats) :
    epoch.Scored rs slot x.gateway.operator stats
      (stats.record x.failed x.isPrescribed x.isObserved) := by
  obtain ⟨-, -, -, -, -, hfailed, hpres, hobs, -⟩ := scanSlot_ok h
  refine stats.record_ticked ?_ ?_ ?_
  · rw [hfailed, hcounts.submitted, hcounts.failed, if_pos ⟨hactive, hslot⟩]
    have hle : failures rs slot ≤ rs.length := failures_le slot
    omega
  · rw [hpres, position, List.find?_isSome]
    simp only [List.mem_range, decide_eq_true_eq]
  · rw [hobs]
    cases hpos : position epoch.prescribedObserverGateways epoch.observerCount
      x.gateway.operator with
    | none => simp
    | some j => simp [hcounts.observed j]

/-- **One batch.** A batch of an epoch with reports scores the active gateways in the slots that it
covers, and no others. -/
theorem distributeEpoch_scores {t : ℤ} {p q : Pubkey} (hR : Registered s)
    (hkey : epoch.epochIndex = index) (he : s.epochs index = some epoch) (hcounts : epoch.Counts rs)
    (hsome : rs ≠ []) (h : distributeEpoch env t index p q remaining s = .ok s') :
    ∃ done, s'.epochs index = some { epoch with
        distributionIndex := done
        rewardsDistributed := if epoch.activeGatewayCount ≤ done then 1 else 0 } ∧
      epoch.distributionIndex ≤ done ∧ ∀ k g, s.gateways k = some g →
        g.registryIndex < epoch.activeGatewayCount → ∃ g', s'.gateways k = some g' ∧
        (epoch.distributionIndex ≤ g.registryIndex → g.registryIndex < done → g.ActiveIn s index →
          epoch.Scored rs g.registryIndex k g.stats g'.stats) ∧
        (¬ (epoch.distributionIndex ≤ g.registryIndex ∧ g.registryIndex < done ∧
          g.ActiveIn s index) → g'.stats = g.stats) := by
  obtain ⟨settings, epoch', -, he', rfl, rfl, -, -, -, ⟨hnone, -⟩ |
    ⟨batch, payout, tokens, -, hb, hpay, -, -, hs'⟩⟩ := distributeEpoch_ok h
  · obtain rfl := Option.some.inj (he.symm.trans he')
    rw [hcounts.submitted, List.length_eq_zero_iff] at hnone
    exact absurd hnone hsome
  obtain rfl := Option.some.inj (he.symm.trans he')
  obtain ⟨idxs, xs, hpend, hle, hscan, hmem, hidx, -, -, hall, -⟩ := scanBatch_ok hb
  simp only [List.nil_append] at hpend
  rw [← hpend] at hscan
  obtain ⟨hg, hne, -⟩ := scanned_pending hR hscan hidx
  have hgws : s'.gateways = payout.state.gateways := by rw [hs']
  refine ⟨batch.distIdx, by rw [hs']; exact Function.update_self .., hle, fun k g hk hslot => ?_⟩
  by_cases hin : ∃ x ∈ batch.pending, x.gateway.operator = k
  · obtain ⟨x, hx, rfl⟩ := hin
    obtain rfl : x.gateway = g := Option.some.inj ((hg x hx).symm.trans hk)
    obtain ⟨j, hj, info, hscanned⟩ := exists_of_forall₂ hscan hx
    obtain ⟨-, haddr, hleaving, heligible, -⟩ := scanSlot_ok hscanned
    obtain ⟨hlow, hhigh, -⟩ := hmem j hj
    have hcount := (hR.index _ _ hk).1
    have hjcount : j < s.registry.count := hR.lt_of_address (by rw [haddr]; exact hR.nonzero _ _ hk)
    obtain rfl : j = x.gateway.registryIndex :=
      hR.injective hjcount hcount (by rw [haddr, (hR.index _ _ hk).2])
    have hword : x.gateway.registryIndex < 3000 := hcount.trans_le hR.count_le
    obtain ⟨payment, hp, hat, -⟩ := payBatch_each hpay hne hx (by norm_num)
    obtain ⟨stake, cum, hpg⟩ := payGateway_gateway hp
    refine ⟨_, by rw [hgws]; exact hat, fun _ _ hactive => ?_, fun hno => ?_⟩
    · have hstay : (!x.isLeaving && x.eligible) = true := by
        rw [Bool.and_eq_true, Bool.not_eq_true', heligible, hkey]
        refine ⟨?_, hactive.weight, hactive.weighed⟩
        rw [← Bool.not_eq_true, hleaving, hactive.joined]
        exact fun hno => by cases hno
      simp only [hstay, if_true, hpg]
      exact scanSlot_scored hcounts hslot hword hscanned _
    · have hgone : (!x.isLeaving && x.eligible) = false := by
        rw [← Bool.not_eq_true, Bool.and_eq_true, Bool.not_eq_true', heligible, hkey]
        rintro ⟨hstay, hweight, hweighed⟩
        refine hno ⟨hlow, hhigh, ?_, hweight, hweighed⟩
        rw [← Bool.not_eq_true, hleaving] at hstay
        rcases hst : x.gateway.status with _ | _ | _
        · rfl
        · exact absurd hst hstay
        · exact absurd hst (hR.status _ _ hk).1
      simp only [hgone, Bool.false_eq_true, if_false, hpg]
  · push Not at hin
    have hsame : s'.gateways k = some g := by rw [hgws, payBatch_other hpay hin, hk]
    refine ⟨g, hsame, fun hlow hhigh _ => ?_, fun _ => rfl⟩
    have haddr := (hR.index k g hk).2
    have hj := hall g.registryIndex hlow hhigh (by rw [haddr]; exact hR.nonzero k g hk)
    obtain ⟨x, hx, info, hscanned⟩ := exists_of_forall₂ hscan.flip hj
    exact absurd ((scanSlot_ok hscanned).2.1.symm.trans haddr) (hin x hx)

/-! ### The account of the epoch -/

/-- What an instruction makes of the account of an epoch that is there before and after. -/
inductive Instruction.Writes (index : ℕ) (epoch : Epoch) : Instruction → Epoch → Prop
  | same {i : Instruction} : Writes index epoch i epoch
  | tally {remaining : List AccountMeta} (untallied : epoch.weightsTallied = 0) (n w flag : ℕ) :
      Writes index epoch (.tallyWeights index remaining) { epoch with
        tallyIndex := n
        totalCompositeWeight := w
        weightsTallied := flag }
  | prescribe {remaining : List AccountMeta} {names : RawAccount} {epoch' : Epoch}
      (unprescribed : epoch.prescriptionsDone = 0)
      (ends : epoch'.endTimestamp = epoch.endTimestamp)
      (cursor : epoch'.distributionIndex = epoch.distributionIndex)
      (running : epoch'.rewardsDistributed = epoch.rewardsDistributed) :
      Writes index epoch (.prescribeEpoch index remaining names) epoch'
  | save {u : Pubkey} {results : BitVec 3000} {count : ℕ} {txId : Hash} (observed : BitVec 56)
      (failed : ℕ → ℕ) (submitted : ℕ) :
      Writes index epoch (.saveObservations u index results count txId) { epoch with
        hasObserved := observed
        failureCounts := failed
        observationsSubmitted := submitted }
  | distribute {p q : Pubkey} {remaining : List AccountMeta} (done flag : ℕ) :
      Writes index epoch (.distributeEpoch index p q remaining) { epoch with
        distributionIndex := done
        rewardsDistributed := flag }
  | closeReport {u : Pubkey} (closed : ℕ) : Writes index epoch (.closeObservation index u)
      { epoch with
      observationsClosed := closed }

/-- **What an instruction makes of an epoch.** -/
theorem handler_writes (he : s.epochs index = some epoch) (he' : s'.epochs index = some epoch')
    (h : i.handler env clock s = .ok s') : i.Writes index epoch epoch' := by
  have of_same : s'.epochs index = s.epochs index → i.Writes index epoch epoch' := by
    intro hE
    rw [hE, he] at he'
    rw [Option.some.inj he']
    exact .same
  have of_update : ∀ {n x x'}, s.epochs n = some x → s'.epochs = Function.update s.epochs n
    (some x') →
      (n = index → i.Writes index x x') → i.Writes index epoch epoch' := by
    intro n x x' hx hE hwrites
    by_cases hn : n = index
    · subst hn
      rw [hE, Function.update_self] at he'
      obtain rfl := Option.some.inj he'
      obtain rfl := Option.some.inj (hx.symm.trans he)
      exact hwrites rfl
    · exact of_same (by rw [hE, Function.update_of_ne (Ne.symm hn)])
  have of_remove : ∀ {n}, s'.epochs = Function.update s.epochs n none → i.Writes index epoch
      epoch' := by
    intro n hE
    refine of_same ?_
    rw [hE] at he' ⊢
    refine Function.update_of_ne ?_ _ _
    rintro rfl
    rw [Function.update_self] at he'
    cases he'
  by_cases hw : i.WritesEpoch
  · cases i <;> try exact hw.elim
    case createEpoch =>
      obtain ⟨settings, _, _, _, _, _, -, hnone, -, -, -, -, -, rfl⟩ := createEpoch_ok h
      refine of_same (Function.update_of_ne ?_ _ _)
      rintro rfl
      rw [he] at hnone
      cases hnone
    case tallyWeights =>
      obtain ⟨_, x, m, w, -, hx, hzero, -, -, hE⟩ := tallyWeights_epochs h
      exact of_update hx hE fun hn => hn ▸ .tally hzero _ _ _
    case prescribeEpoch =>
      obtain ⟨_, x, _, _, _, _, -, hx, -, hundone, -, -, -, -, -, rfl⟩ := prescribeEpoch_ok h
      exact of_update hx rfl fun hn => hn ▸ .prescribe hundone rfl rfl rfl
    case saveObservations =>
      obtain ⟨x, idx, y, hx, -, -, -, -, -, -, -, -, -, -, rfl⟩ := saveObservations_ok h
      rw [setObserved_eq] at he' of_update
      exact of_update hx rfl fun hn => hn ▸ .save _ _ _
    case distributeEpoch =>
      obtain ⟨-, x, done, flag, hx, -, -, -, hE⟩ := distributeEpoch_written h
      exact of_update hx hE fun hn => hn ▸ .distribute _ _
    case closeObservation =>
      obtain ⟨x, y, hx, -, -, rfl⟩ := closeObservation_ok h
      exact of_update hx rfl fun hn => hn ▸ .closeReport _
    case closeEpoch =>
      obtain ⟨_, _, _, -, -, -, -, -, rfl⟩ := closeEpoch_ok h
      exact of_remove rfl
    case adminCloseStaleEpoch =>
      obtain ⟨_, -, -, -, rfl⟩ := adminCloseStaleEpoch_ok h
      exact of_remove rfl
  · refine of_same ?_
    by_cases honly : i.IsEpochOnly
    · rw [(settings_frame honly hw h).1]
    · have hb : ¬ i.IsBatch := by
        intro hb
        cases i <;> first | exact hb.elim | exact hw trivial
      rw [(handler_epochFrame honly h).2 hb]

/-- What stays of an epoch while it is there: its end, and its observers once they are named. -/
structure Epoch.Follows (epoch epoch' : Epoch) : Prop where
  ends : epoch'.endTimestamp = epoch.endTimestamp
  prescribed : epoch.prescriptionsDone ≠ 0 → epoch'.prescriptionsDone ≠ 0
  count : epoch.prescriptionsDone ≠ 0 → epoch'.observerCount = epoch.observerCount
  observers : epoch.prescriptionsDone ≠ 0 → epoch'.prescribedObservers = epoch.prescribedObservers
  gateways : epoch.prescriptionsDone ≠ 0 →
    epoch'.prescribedObserverGateways = epoch.prescribedObserverGateways

lemma Epoch.Follows.of_same (hends : epoch'.endTimestamp = epoch.endTimestamp)
    (hdone : epoch'.prescriptionsDone = epoch.prescriptionsDone)
    (hcount : epoch'.observerCount = epoch.observerCount)
    (hobs : epoch'.prescribedObservers = epoch.prescribedObservers)
    (hgws : epoch'.prescribedObserverGateways = epoch.prescribedObserverGateways) :
    epoch.Follows epoch' :=
  ⟨hends, fun h => hdone ▸ h, fun _ => hcount, fun _ => hobs, fun _ => hgws⟩

lemma Instruction.Writes.follows (h : i.Writes index epoch epoch')
    (hd : ∀ p q remaining, i ≠ .distributeEpoch index p q remaining) :
    epoch.Follows epoch' ∧ epoch'.distributionIndex = epoch.distributionIndex ∧
      epoch'.rewardsDistributed = epoch.rewardsDistributed := by
  cases h with
  | same => exact ⟨.of_same rfl rfl rfl rfl rfl, rfl, rfl⟩
  | tally untallied n w flag => exact ⟨.of_same rfl rfl rfl rfl rfl, rfl, rfl⟩
  | prescribe unprescribed ends cursor running =>
    have hno : epoch.prescriptionsDone ≠ 0 → False := fun hdone => hdone unprescribed
    exact ⟨⟨ends, fun h => (hno h).elim, fun h => (hno h).elim, fun h => (hno h).elim,
      fun h => (hno h).elim⟩, cursor, running⟩
  | save observed failed submitted => exact ⟨.of_same rfl rfl rfl rfl rfl, rfl, rfl⟩
  | distribute done flag => exact absurd rfl (hd _ _ _)
  | closeReport closed => exact ⟨.of_same rfl rfl rfl rfl rfl, rfl, rfl⟩

/-! ### The standing of a gateway -/

lemma Epoch.Scored.follows {stats stats' : GatewayStats} (h : epoch.Scored rs slot k stats stats')
    (hf : epoch.Follows epoch') (hdone : epoch.prescriptionsDone ≠ 0) :
    epoch'.Scored rs slot k stats stats' := by
  unfold Epoch.Scored Epoch.HasReport
  rw [hf.count hdone, hf.observers hdone, hf.gateways hdone]
  exact h

/-- The gateway had these statistics when the batch that covers its slot came, which scored it if it
was active then. -/
def Epoch.ScoredIn (epoch : Epoch) (rs : List Report) (index slot : ℕ) (k : Pubkey) (later : Trace)
    (stats stats' : GatewayStats) : Prop :=
  ∃ x ∈ later, CoversSlot index slot x ∧ ∃ g, x.before.gateways k = some g ∧
    (g.ActiveIn x.before index → epoch.Scored rs slot k stats stats') ∧
    (¬ g.ActiveIn x.before index → stats' = stats)

/-- Where the score of a gateway stands: its slot is yet to come, or there is nothing to score, or
it has its score. -/
inductive Standing (epoch : Epoch) (rs : List Report) (index slot : ℕ) (k : Pubkey) (later : Trace)
    (now : ℤ) (stats stats' : GatewayStats) : Prop
  | waiting (ahead : epoch.distributionIndex ≤ slot) (running : epoch.rewardsDistributed = 0)
      (same : stats' = stats)
  | silent (none : rs = []) (complete : epoch.rewardsDistributed ≠ 0) (same : stats' = stats)
  | scored (some : rs ≠ []) (prescribed : epoch.prescriptionsDone ≠ 0)
      (ended : epoch.endTimestamp ≤ now)
      (passed : slot < epoch.distributionIndex)
      (score : epoch.ScoredIn rs index slot k later stats stats')

lemma Standing.mono {stats stats' : GatewayStats} {now' : ℤ}
    (h : Standing epoch rs index slot k later now stats stats') (hle : now ≤ now') :
    Standing epoch rs index slot k later now' stats stats' := by
  cases h with
  | waiting ahead running same => exact .waiting ahead running same
  | silent none complete same => exact .silent none complete same
  | scored some prescribed ended passed score =>
    exact .scored some prescribed (ended.trans hle) passed score

lemma Epoch.ScoredIn.cons {x : Step State Event} {stats stats' : GatewayStats}
    (h : epoch.ScoredIn rs index slot k later stats stats') (hf : epoch.Follows epoch')
    (hdone : epoch.prescriptionsDone ≠ 0) :
    epoch'.ScoredIn rs index slot k (x :: later) stats stats' := by
  obtain ⟨y, hy, hcovers, g, hg, hactive, hidle⟩ := h
  exact ⟨y, List.mem_cons_of_mem _ hy, hcovers, g, hg, fun ha => (hactive ha).follows hf hdone,
    hidle⟩

lemma Standing.other {stats : GatewayStats} (hopen : s.Opened index epoch)
    (h : Standing epoch (reports index tr) index slot k later now stats g.stats)
    (hnow : now ≤ clock.unixTimestamp) (hkeeps : g'.stats = g.stats)
    (hf : epoch.Follows epoch' ∧ epoch'.distributionIndex = epoch.distributionIndex ∧
      epoch'.rewardsDistributed = epoch.rewardsDistributed)
    (hrs : epoch.endTimestamp ≤ clock.unixTimestamp → epoch.prescriptionsDone ≠ 0 →
      reports index (⟨s, ⟨clock, e.action⟩, s'⟩ :: tr) = reports index tr) :
    Standing epoch' (reports index (⟨s, ⟨clock, e.action⟩, s'⟩ :: tr)) index slot k
      (⟨s, ⟨clock, e.action⟩, s'⟩ :: later) clock.unixTimestamp stats g'.stats := by
  obtain ⟨hfollows, hcursor, hflag⟩ := hf
  cases h with
  | waiting ahead running same =>
    exact .waiting (hcursor ▸ ahead) (hflag.trans running) (hkeeps.trans same)
  | silent none complete same => exact absurd hopen.2 complete
  | scored some prescribed ended passed score =>
    have hend := ended.trans hnow
    rw [hrs hend prescribed, hkeeps]
    exact .scored some (hfollows.prescribed prescribed) (hfollows.ends ▸ hend) (hcursor ▸ passed)
      (score.cons hfollows prescribed)

lemma Standing.distribute {stats : GatewayStats} {p q : Pubkey} (hR : Registered s)
    (hopen : s.Opened index epoch) (hkey : epoch.epochIndex = index)
    (hv : epoch.Voted (reports index tr) (s.observers index) now)
    (h : Standing epoch (reports index tr) index slot k later now stats g.stats)
    (hg : s.gateways k = some g) (hslot : g.registryIndex = slot)
    (hm : slot < epoch.activeGatewayCount)
    (hstep : distributeEpoch env clock.unixTimestamp index p q remaining s = .ok s')
    (he' : s'.epochs index = some epoch') (hg' : s'.gateways k = some g') :
    Standing epoch' (reports index
        (⟨s, ⟨clock, .call (.distributeEpoch index p q remaining)⟩, s'⟩ :: tr)) index slot k
      (⟨s, ⟨clock, .call (.distributeEpoch index p q remaining)⟩, s'⟩ :: later) clock.unixTimestamp
      stats g'.stats := by
  have hrs : reports index (⟨s, ⟨clock, .call (.distributeEpoch index p q remaining)⟩, s'⟩ :: tr) =
      reports index tr := reports_other hopen.1 fun i hi => by rw [← Action.call.inj hi]; exact id
  rw [hrs]
  obtain ⟨-, _, _, _, he, hdone, hend, -, -⟩ := distributeEpoch_written hstep
  obtain rfl := Option.some.inj (hopen.1.symm.trans he)
  by_cases hnil : reports index tr = []
  · -- nothing to score: the one call completes the epoch
    have hsub : epoch.observationsSubmitted = 0 := by
      rw [hv.counts.submitted, hnil]
      rfl
    obtain rfl := distributeEpoch_silent he hsub (hv.silent hopen.2 hnil) hstep
    obtain rfl := Option.some.inj (hg.symm.trans hg')
    simp only [State.setEpoch, Function.update_self, Option.some.injEq] at he'
    have hflag : epoch'.rewardsDistributed ≠ 0 := by
      rw [← he']
      exact one_ne_zero
    cases h with
    | waiting ahead running same => exact .silent hnil hflag same
    | silent none complete same => exact .silent hnil hflag same
    | scored some _ _ _ _ => exact absurd hnil some
  · obtain ⟨done, hE, hle, hscores⟩ := distributeEpoch_scores hR hkey he hv.counts hnil hstep
    obtain ⟨x, hx, hin, hout⟩ := hscores k g hg (hslot ▸ hm)
    obtain rfl := Option.some.inj (hx.symm.trans hg')
    rw [hslot] at hin hout
    have hcovers : epoch.distributionIndex ≤ slot → slot < done → CoversSlot index slot
        ⟨s, ⟨clock, .call (.distributeEpoch index p q remaining)⟩, s'⟩ := fun hlow hhigh =>
      ⟨⟨p, q, remaining, rfl⟩, epoch, _, he, hE, hlow, hhigh⟩
    obtain rfl := Option.some.inj (hE.symm.trans he')
    have hf : epoch.Follows { epoch with
        distributionIndex := done
        rewardsDistributed := if epoch.activeGatewayCount ≤ done then 1 else 0 } :=
      .of_same rfl rfl rfl rfl rfl
    cases h with
    | waiting ahead running same =>
      by_cases hpassed : slot < done
      · refine .scored hnil hdone hend hpassed ⟨_, List.mem_cons_self, hcovers ahead hpassed, g, hg,
          fun hactive => ?_, fun hidle => (hout fun hall => hidle hall.2.2).trans same⟩
        rw [← same]
        exact (hin ahead hpassed hactive).follows hf hdone
      · refine .waiting (not_lt.mp hpassed) (if_neg (by omega)) ?_
        exact (hout fun hall => hpassed hall.2.1).trans same
    | silent none _ _ => exact absurd none hnil
    | scored some prescribed ended passed score =>
      rw [hout fun hall => absurd hall.1 (not_le.mpr passed)]
      exact .scored hnil hdone hend (passed.trans_le hle) (score.cons hf prescribed)

/-- **One step.** -/
theorem step_standing {stats : GatewayStats} (hF : Footing env s) (hR : Registered s)
    (hone : OneOpen s) (hopen : s.Opened index epoch) (hkey : epoch.epochIndex = index)
    (hv : epoch.Voted (reports index tr) (s.observers index) now)
    (hnow : now ≤ e.clock.unixTimestamp)
    (h : Standing epoch (reports index tr) index slot k later now stats g.stats)
    (hg : s.gateways k = some g) (hslot : g.registryIndex = slot)
    (hm : slot < epoch.activeGatewayCount)
    (last : GarStep env s e s') (he' : s'.epochs index = some epoch')
    (hg' : s'.gateways k = some g') :
    Standing epoch' (reports index (⟨s, e, s'⟩ :: tr)) index slot k (⟨s, e, s'⟩ :: later)
      e.clock.unixTimestamp stats g'.stats := by
  obtain ⟨clock, action⟩ := e
  by_cases hcall : ∃ i, action = .call i
  · obtain ⟨i, rfl⟩ := hcall
    obtain ⟨-, hstep⟩ := garStep_call last
    by_cases hd : ∃ p q remaining, i = .distributeEpoch index p q remaining
    · obtain ⟨p, q, remaining, rfl⟩ := hd
      exact h.distribute hR hopen hkey hv hg hslot hm hstep he' hg'
    push Not at hd
    have hother : ∀ n p q remaining, i ≠ .distributeEpoch n p q remaining := by
      rintro n p q remaining rfl
      -- only the open epoch can be distributed
      obtain ⟨-, x, _, _, hx, -, -, hzero, -⟩ := distributeEpoch_written hstep
      obtain ⟨settings, hset, hindex⟩ := hone.latest index epoch hopen
      obtain ⟨settings', hset', hindex'⟩ := hone.latest n x ⟨hx, hzero⟩
      obtain rfl := Option.some.inj (hset.symm.trans hset')
      obtain rfl : n = index := by omega
      exact hd p q remaining rfl
    refine h.other (e := ⟨clock, .call i⟩) hopen hnow
      (handler_keepsStats hF hR hother hstep k g g' hg hg')
      ((handler_writes hopen.1 he' hstep).follows hd)
      fun hend hdone => reports_other hopen.1 fun j hj hreport => ?_
    obtain rfl := Action.call.inj hj
    cases i <;> try exact hreport.elim
    case saveObservations u n results count txId =>
      obtain rfl : n = index := hreport
      obtain ⟨x, _, _, hx, -, -, -, hrunning, -⟩ := saveObservations_ok hstep
      obtain rfl := Option.some.inj (hopen.1.symm.trans hx)
      exact absurd hrunning (not_lt.mpr hend)
  · obtain ⟨t, rfl⟩ := garStep_transfer last hcall
    obtain rfl : g = g' := Option.some.inj (hg.symm.trans hg')
    obtain rfl : epoch = epoch' := Option.some.inj (hopen.1.symm.trans he')
    exact h.other (e := ⟨clock, action⟩) hopen hnow rfl
      ⟨.of_same rfl rfl rfl rfl rfl, rfl, rfl⟩ fun _ _ =>
      reports_other hopen.1 fun i hi => absurd ⟨i, hi⟩ hcall

/-! ### Scores -/

/-- **Each gateway is scored once, by strict majority.** From any state that is reached where an
epoch is open and nothing of it is distributed, to the state in which it is distributed, whatever
happens in between: a gateway in one of its slots keeps its statistics if nobody reported, and
otherwise they change in the batch that covers its slot only, by one score if it is active in the
epoch then. -/
theorem scored_once (hfresh : Fresh env s₀) (run : Run (GarStep env) s₀ tr s)
    (hopen : s.Opened index epoch) (hzero : epoch.distributionIndex = 0)
    (run' : Run (GarStep env) s later s')
    (hclose : Trace.Avoids (later ++ tr) (·.IsCloseEpochSettings)) (htime : Timely (later ++ tr))
    (hstays : ∀ x ∈ later, ∃ y, x.before.Opened index y) (he' : s'.epochs index = some epoch')
    (hdone : epoch'.rewardsDistributed ≠ 0) (hg : s.gateways k = some g)
    (hslot : g.registryIndex < epoch.activeGatewayCount) :
    ∃ g', s'.gateways k = some g' ∧
      (reports index (later ++ tr) = [] → g'.stats = g.stats) ∧
      (reports index (later ++ tr) ≠ [] → epoch'.ScoredIn (reports index (later ++ tr)) index
        g.registryIndex k later g.stats g'.stats) := by
  have hstanding : ∀ x g', s'.epochs index = some x → s'.gateways k = some g' → ∀ now,
      (∀ y ∈ later ++ tr, y.label.clock.unixTimestamp ≤ now) →
      Standing x (reports index (later ++ tr)) index g.registryIndex k later now g.stats
          g'.stats := by
    clear he' hdone
    induction run' with
    | nil =>
      intro x g' hx hg' now _
      obtain rfl := Option.some.inj (hopen.1.symm.trans hx)
      obtain rfl := Option.some.inj (hg.symm.trans hg')
      exact .waiting (hzero ▸ Nat.zero_le _) hopen.2 rfl
    | @cons later s₁ e s₂ run₁ last ih =>
      intro x g' hx hg' now hnow
      have hclose₁ : Trace.Avoids (later ++ tr) (·.IsCloseEpochSettings) :=
        fun x hx => hclose x (List.mem_cons_of_mem _ hx)
      have htime₁ : Timely (later ++ tr) := (List.pairwise_cons.mp htime).2
      have hstays₁ := fun x hx => hstays x (List.mem_cons_of_mem _ hx)
      have whole := run.append run₁
      obtain ⟨hF, hR⟩ := run_footing hfresh whole
      obtain ⟨y, hy⟩ := hstays _ List.mem_cons_self
      have hy : s₁.Opened index y := hy
      have hfrozen := run_frozen hfresh run hopen run₁ hclose₁ hstays₁
      obtain ⟨g₁, hg₁, hindex⟩ := hfrozen.gateways k g hg hslot
      have hbefore := ih hclose₁ htime₁ hstays₁ y g₁ hy.1 hg₁ _ htime.le
      have hnext := step_standing hF hR (run_oneOpen hfresh whole hclose₁) hy
        (run_keyed hfresh whole index y hy.1)
        (run_voted hfresh whole htime₁ htime.le y hy.1) le_rfl hbefore hg₁ hindex
        (by rw [hfrozen.counted y hy]; exact hslot) last hx hg'
      exact hnext.mono (hnow _ List.mem_cons_self)
  have hfrozen := run_frozen hfresh run hopen run' hclose hstays
  obtain ⟨g', hg', -⟩ := hfrozen.gateways k g hg hslot
  obtain ⟨now, hnow⟩ := htime.exists_now
  refine ⟨g', hg', fun hnil => ?_, fun hsome => ?_⟩ <;>
    cases hstanding epoch' g' he' hg' now hnow with
    | waiting ahead running same => exact absurd running hdone
    | silent none complete same => first | exact same | exact absurd none hsome
    | scored some prescribed ended passed score => first | exact absurd hnil some | exact score

end

namespace SmallNetwork

/-- Epoch 0 has ended and is distributed. -/
def payout : Event := call 90000 distribution

lemma observed : ∃ epoch g, (after observedEpoch.events).Opened 0 epoch ∧
    epoch.distributionIndex = 0 ∧ epoch.activeGatewayCount = 1 ∧
    (after observedEpoch.events).gateways ⟨21⟩ = some g ∧ g.registryIndex = 0 := by
  have hepoch : ((after observedEpoch.events).epochs 0).map (fun epoch =>
      (epoch.rewardsDistributed, epoch.distributionIndex, epoch.activeGatewayCount)) =
        some (0, 0, 1) := by
    unfold after
    decide +kernel
  have hgateway : ((after observedEpoch.events).gateways ⟨21⟩).map (·.registryIndex) = some 0 := by
    unfold after
    decide +kernel
  obtain ⟨epoch, he, hval⟩ := Option.map_eq_some_iff.mp hepoch
  obtain ⟨g, hg, hindex⟩ := Option.map_eq_some_iff.mp hgateway
  simp only [Prod.mk.injEq] at hval
  exact ⟨epoch, g, ⟨he, hval.1⟩, hval.2.1, hval.2.2, hg, hindex⟩

end SmallNetwork

open SmallNetwork in
/-- The one gateway is scored, by the one report. -/
theorem scored_once_small :
    ∃ s' tr epoch' g g', GarStep chain (after observedEpoch.events) payout s' ∧
    (after observedEpoch.events).gateways ⟨21⟩ = some g ∧ s'.gateways ⟨21⟩ = some g' ∧
    s'.epochs 0 = some epoch' ∧ epoch'.ScoredIn (reports 0 tr) 0 0 ⟨21⟩
      [⟨after observedEpoch.events, payout, s'⟩] g.stats g'.stats := by
  obtain ⟨tr, run, hl⟩ := run_after observedEpoch.events observedEpoch.works
  obtain ⟨epoch, g, hopen, hcursor, hcount, hg, hindex⟩ := observed
  have hok : (payout.exec chain (after observedEpoch.events)).isOk = true := by
    unfold after
    decide +kernel
  have hstep : GarStep chain (after observedEpoch.events) payout _ :=
    eq_ok_outcome (s := after observedEpoch.events) hok
  set s' := outcome (payout.exec chain (after observedEpoch.events)) (after observedEpoch.events)
    with hs'
  have hfinal : (s'.epochs 0).map (fun epoch =>
      (epoch.rewardsDistributed, epoch.observationsSubmitted)) = some (1, 1) := by
    rw [hs']
    unfold after
    decide +kernel
  obtain ⟨epoch', he', hval⟩ := Option.map_eq_some_iff.mp hfinal
  obtain ⟨hdone, hsubmitted⟩ := Prod.mk.inj hval
  have hlabels : ([⟨after observedEpoch.events, payout, s'⟩] ++ tr : Trace).map (·.label) =
      (observedEpoch.events ++ [payout]).reverse := by simp [hl]
  have htime := timely_of_labels hlabels (by decide)
  have hclose := avoids_of_labels (P := (·.IsCloseEpochSettings)) hlabels (by
    simp [observedEpoch, payout, distribution, tally, join, call, Instruction.IsCloseEpochSettings])
  obtain ⟨g', hg', -, hscored⟩ := scored_once fresh run hopen hcursor (.cons .nil hstep) hclose
    htime
    (fun x hx => by
      obtain rfl := List.mem_singleton.mp hx
      exact ⟨epoch, hopen⟩) he' (by rw [hdone]; exact one_ne_zero) hg
        (by rw [hindex, hcount]; exact one_pos)
  refine ⟨s', _, epoch', g, g', hstep, hg, hg', he', hindex ▸ hscored fun hnil => ?_⟩
  obtain ⟨now, hnow⟩ := htime.exists_now
  have hcounts := (run_voted fresh (run.cons hstep) htime hnow epoch' he').counts.submitted
  have hnil' : reports 0 (⟨after observedEpoch.events, payout, s'⟩ :: tr) = [] := hnil
  rw [hsubmitted, hnil'] at hcounts
  exact absurd hcounts one_ne_zero

end Gar
end ArioSolana
