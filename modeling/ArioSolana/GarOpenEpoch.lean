import ArioSolana.GarRent

/-!
# The open epoch

An epoch is open from its creation until it is distributed or written off. Only the latest epoch is
ever open, and for as long as it is, no instruction moves or removes a gateway of the slots that it
counts: who joins gets a slot behind them, who leaves keeps the slot, and a slot is taken away only
while no epoch is open. So the counters, weights and payouts of an epoch mean the same gateways all
along. -/

namespace ArioSolana
namespace Gar

open Checked Solana Finset

/-- The epoch is neither distributed nor gone. -/
def State.Opened (s : State) (index : ℕ) (epoch : Epoch) : Prop :=
  s.epochs index = some epoch ∧ epoch.rewardsDistributed = 0

/-- An open epoch is the latest one, and the registry has the slots that it counts. -/
structure OneOpen (s : State) : Prop where
  latest : ∀ index epoch, s.Opened index epoch →
    ∃ settings, s.epochSettings = some settings ∧ settings.currentEpochIndex = index + 1
  room : ∀ index epoch, s.Opened index epoch → epoch.activeGatewayCount ≤ s.registry.count

/-- The first slots keep their gateways. -/
structure SlotsKept (m : ℕ) (s s' : State) : Prop where
  room : m ≤ s'.registry.count
  address : ∀ i < m, (s'.registry.gateways i).address = (s.registry.gateways i).address

section

variable {env : Env} {s s' s'' s₀ : State} {index m n : ℕ} {epoch epoch' : Epoch} {i : Instruction}
  {clock : Clock} {tr later : Trace} {e : Event} {remaining : List AccountMeta} {k : Pubkey}

/-! ### The counter -/

/-- While the settings exist, only `create_epoch` moves the counter, or the authority does from
zero. -/
lemma handler_currentIndex (hinit : ¬ i.IsInitializeEpochs) (hclose : ¬ i.IsCloseEpochSettings)
    (hcreate : ¬ i.IsCreateEpoch) (h : i.handler env clock s = .ok s') :
    s'.epochSettings.map (·.currentEpochIndex) = s.epochSettings.map (·.currentEpochIndex) ∨
      s.epochSettings.map (·.currentEpochIndex) = some 0 := by
  rcases handler_settings hinit hclose h with hsame | ⟨old, new, hold, hnew, hadj⟩
  · exact .inl (by rw [hsame])
  rw [hold, hnew]
  rcases hadj.counter with hkept | ⟨hc, -⟩ | ⟨hzero, -⟩
  · exact .inl (congrArg some hkept)
  · exact absurd hc hcreate
  · exact .inr (congrArg some hzero)

lemma OneOpen.counter_kept (hs : OneOpen s) (hopen : s.Opened index epoch)
    (hclose : ¬ i.IsCloseEpochSettings) (hcreate : ¬ i.IsCreateEpoch)
    (h : i.handler env clock s = .ok s') :
    ∃ settings, s'.epochSettings = some settings ∧ settings.currentEpochIndex = index + 1 := by
  obtain ⟨settings, hsome, hindex⟩ := hs.latest index epoch hopen
  have hinit : ¬ i.IsInitializeEpochs := by
    intro hinit
    cases i <;> try exact hinit.elim
    simp only [Instruction.handler, initializeEpochs, bind_eq_ok, requireAbsent_eq_ok] at h
    obtain ⟨_, hnone, -⟩ := h
    rw [hsome] at hnone
    cases hnone
  have hmap : s.epochSettings.map (·.currentEpochIndex) = some (index + 1) := by
    rw [hsome, Option.map_some, hindex]
  rcases handler_currentIndex hinit hclose hcreate h with hkept | hzero
  · rw [hmap] at hkept
    obtain ⟨settings', hsome', hindex'⟩ := Option.map_eq_some_iff.mp hkept
    exact ⟨settings', hsome', hindex'⟩
  · rw [hmap] at hzero
    cases hzero

lemma OneOpen.not_finished {settings : EpochSettings} {u : Unit} (hs : OneOpen s)
    (hopen : s.Opened index epoch) (hset : s.epochSettings = some settings)
    (h : requireLatestEpochFinished settings.currentEpochIndex remaining s = .ok u) : False := by
  obtain ⟨settings', hset', hindex⟩ := hs.latest index epoch hopen
  obtain rfl := Option.some.inj (hset.symm.trans hset')
  rw [hindex] at h
  simp only [requireLatestEpochFinished, hopen.1, bind_eq_ok, require_eq_ok] at h
  obtain ⟨-, -, hdone⟩ := h
  rw [hopen.2] at hdone
  cases hdone

/-! ### The epochs -/

/-- An epoch that is open after an instruction was open before it, and counts the same slots, or it
was made by the instruction. -/
lemma handler_opened (hc : ¬ i.IsCreateEpoch) (h : i.handler env clock s = .ok s')
    (hopen : s'.Opened index epoch') : ∃ epoch, s.Opened index epoch ∧
      epoch'.activeGatewayCount = epoch.activeGatewayCount := by
  have of_update : ∀ {n epoch x}, s.epochs n = some epoch →
      s'.epochs = Function.update s.epochs n (some x) →
      x.activeGatewayCount = epoch.activeGatewayCount →
      (x.rewardsDistributed = 0 → epoch.rewardsDistributed = 0) →
      ∃ epoch, s.Opened index epoch ∧ epoch'.activeGatewayCount = epoch.activeGatewayCount := by
    intro n epoch x he hE hcount hback
    obtain ⟨hget, hzero⟩ := hopen
    rw [hE] at hget
    by_cases hn : index = n
    · subst hn
      rw [Function.update_self] at hget
      obtain rfl := Option.some.inj hget
      exact ⟨epoch, ⟨he, hback hzero⟩, hcount⟩
    · rw [Function.update_of_ne hn] at hget
      exact ⟨epoch', ⟨hget, hzero⟩, rfl⟩
  have of_remove : ∀ {n}, s'.epochs = Function.update s.epochs n none →
      ∃ epoch, s.Opened index epoch ∧ epoch'.activeGatewayCount = epoch.activeGatewayCount := by
    intro n hE
    obtain ⟨hget, hzero⟩ := hopen
    rw [hE] at hget
    by_cases hn : index = n
    · rw [hn, Function.update_self] at hget
      cases hget
    · rw [Function.update_of_ne hn] at hget
      exact ⟨epoch', ⟨hget, hzero⟩, rfl⟩
  by_cases hw : i.WritesEpoch
  · cases i <;> try exact hw.elim
    case createEpoch => exact absurd trivial hc
    case tallyWeights =>
      obtain ⟨_, epoch, m, w, -, he, -, -, -, hE⟩ := tallyWeights_epochs h
      exact of_update he hE rfl id
    case prescribeEpoch =>
      obtain ⟨_, epoch, _, _, _, _, -, he, -, -, -, -, -, -, -, rfl⟩ := prescribeEpoch_ok h
      exact of_update he rfl rfl id
    case saveObservations =>
      obtain ⟨epoch, idx, x, he, -, -, -, -, -, -, -, -, -, -, rfl⟩ := saveObservations_ok h
      rw [setObserved_eq] at hopen of_update
      exact of_update he rfl rfl id
    case distributeEpoch =>
      obtain ⟨-, epoch, done, flag, he, -, -, hzero, hE⟩ := distributeEpoch_written h
      exact of_update he hE rfl fun _ => hzero
    case closeObservation =>
      obtain ⟨epoch, x, he, -, -, rfl⟩ := closeObservation_ok h
      exact of_update he rfl rfl id
    case closeEpoch =>
      obtain ⟨_, _, _, -, -, -, -, -, rfl⟩ := closeEpoch_ok h
      exact of_remove rfl
    case adminCloseStaleEpoch =>
      obtain ⟨_, -, -, -, rfl⟩ := adminCloseStaleEpoch_ok h
      exact of_remove rfl
  · have hE : s'.epochs = s.epochs := by
      by_cases he : i.IsEpochOnly
      · exact (settings_frame he hw h).1
      · have hb : ¬ i.IsBatch := by
          intro hb
          cases i <;> first | exact hb.elim | exact hw trivial
        exact (handler_epochFrame he h).2 hb
    exact ⟨epoch', ⟨hE ▸ hopen.1, hopen.2⟩, rfl⟩

/-! ### The slots -/

lemma SlotsKept.of_registry (hroom : m ≤ s.registry.count) (h : s'.registry = s.registry) :
    SlotsKept m s s' := ⟨by rwa [h], fun i _ => by rw [h]⟩

lemma SlotsKept.trans (h : SlotsKept m s s') (h' : SlotsKept m s' s'') : SlotsKept m s s'' :=
  ⟨h'.room, fun i hi => (h'.address i hi).trans (h.address i hi)⟩

/-- **While an epoch is open no instruction moves its slots.** -/
theorem handler_slotsKept (hF : Footing env s) (hR : Registered s) (hs : OneOpen s)
    (hopen : s.Opened index epoch)
    (h : i.handler env clock s = .ok s') : SlotsKept epoch.activeGatewayCount s s' := by
  have hroom := hs.room index epoch hopen
  by_cases hl : i.IsLifecycle
  · cases i <;> try exact hl.elim
    all_goals simp only [Instruction.handler] at h
    case joinNetwork operator account pool params =>
      obtain ⟨g, t, -, -, -, -, -, -, -, -, -, -, -, -, -, -, -, -, -, rfl⟩ := joinNetwork_ok h
      refine ⟨hroom.trans (Nat.le_succ _), fun j hj => ?_⟩
      change (Function.update s.registry.gateways _ _ j).address = _
      rw [Function.update_of_ne (by omega)]
    case leaveNetwork operator excess remaining =>
      obtain ⟨g, settings, C, W, L, hg, -, -, -, -, -, -, -, rfl⟩ := leaveNetwork_ok h
      refine ⟨hroom, fun j _ => ?_⟩
      change (Function.update s.registry.gateways _ _ j).address = _
      by_cases hj : j = g.registryIndex
      · rw [hj, Function.update_self]
      · rw [Function.update_of_ne hj]
    case pruneGateway operator pool treasury excess remaining =>
      obtain ⟨g, settings, slash, C, W, L, t, hg, -, -, -, -, -, -, -, -, -, -, rfl⟩ :=
        pruneGateway_ok h
      refine ⟨hroom, fun j _ => ?_⟩
      change (Function.update s.registry.gateways _ _ j).address = _
      by_cases hj : j = g.registryIndex
      · rw [hj, Function.update_self]
      · rw [Function.update_of_ne hj]
    case finalizeGone operator remaining =>
      -- the guard of `finalize_gone` looks at the latest epoch, which is the open one
      obtain ⟨g, settings, s₁, -, hset, -, -, -, -, ⟨u, hfinished⟩, -⟩ := finalizeGone_ok h
      exact (hs.not_finished hopen hset hfinished).elim
    case updateObserverAddress operator newObserver =>
      obtain ⟨g, -, -, -, -, -, -, rfl⟩ := updateObserverAddress_ok h
      exact .of_registry hroom rfl
  · have hsame := handler_sameSeats hF hR hl h
    exact ⟨hsame.count ▸ hroom, fun j _ => hsame.address j⟩

/-- **One instruction.** -/
theorem handler_oneOpen (hF : Footing env s) (hR : Registered s) (hs : OneOpen s)
    (hclose : ¬ i.IsCloseEpochSettings)
    (h : i.handler env clock s = .ok s') : OneOpen s' := by
  by_cases hc : i.IsCreateEpoch
  · cases i <;> try exact hc.elim
    obtain ⟨settings, start, finish, flag, R, u, hset, hnone, -, -, -, -, hfinished, rfl⟩ :=
      createEpoch_ok h
    have honly : ∀ index epoch, s.Opened index epoch → False := fun index epoch hopen =>
      hs.not_finished hopen hset hfinished
    constructor
    all_goals
      rintro index epoch ⟨hget, hzero⟩
      change Function.update s.epochs _ _ index = some epoch at hget
      by_cases hn : index = settings.currentEpochIndex
      · subst hn
        rw [Function.update_self] at hget
        obtain rfl := Option.some.inj hget
        first | exact ⟨_, rfl, rfl⟩ | exact le_rfl
      · rw [Function.update_of_ne hn] at hget
        exact (honly index epoch ⟨hget, hzero⟩).elim
  · constructor
    · intro index epoch' hopen'
      obtain ⟨epoch, hopen, -⟩ := handler_opened hc h hopen'
      exact hs.counter_kept hopen hclose hc h
    · intro index epoch' hopen'
      obtain ⟨epoch, hopen, hcount⟩ := handler_opened hc h hopen'
      rw [hcount]
      exact (handler_slotsKept hF hR hs hopen h).room

/-! ### Runs -/

lemma run_oneOpen (hfresh : Fresh env s₀) (run : Run (GarStep env) s₀ tr s)
    (hclose : tr.Avoids (·.IsCloseEpochSettings)) : OneOpen s := by
  induction run with
  | nil =>
    constructor
    all_goals
      rintro index epoch ⟨hget, -⟩
      rw [hfresh.epochs] at hget
      cases hget
  | cons run last ih =>
    have hs := ih fun x hx => hclose x (List.mem_cons_of_mem _ hx)
    obtain ⟨hF, hR⟩ := run_footing hfresh run
    rcases garStep_cases last with ⟨i, hi, -, h⟩ | ⟨t, rfl⟩
    · exact handler_oneOpen hF hR hs (fun hc => hclose _ List.mem_cons_self ⟨i, hi, hc⟩) h
    · exact ⟨hs.latest, hs.room⟩

/-- **At most one epoch is open.** In every state that is reached without closing the settings of
the epochs, an open epoch is the latest one, and the registry still has the slots that it counts. -/
theorem one_open_epoch (hfresh : Fresh env s₀) (run : Run (GarStep env) s₀ tr s)
    (hclose : tr.Avoids (·.IsCloseEpochSettings)) : OneOpen s :=
  run_oneOpen hfresh run hclose

/-- The gateways of the first `m` slots are still there, each in its slot, and the epoch still
counts `m` slots if it is open. -/
structure Frozen (index m : ℕ) (s s' : State) : Prop where
  slots : SlotsKept m s s'
  gateways : ∀ k g, s.gateways k = some g → g.registryIndex < m →
    ∃ g', s'.gateways k = some g' ∧ g'.registryIndex = g.registryIndex
  counted : ∀ epoch, s'.Opened index epoch → epoch.activeGatewayCount = m

lemma SlotsKept.gateways {g : Gateway} (hR : Registered s) (hR' : Registered s')
    (h : SlotsKept m s s') (hg : s.gateways k = some g) (hm : g.registryIndex < m) :
    ∃ g', s'.gateways k = some g' ∧ g'.registryIndex = g.registryIndex := by
  obtain ⟨g', hg', hindex⟩ := hR'.filled g.registryIndex (hm.trans_le h.room)
  rw [h.address _ hm, (hR.index k g hg).2] at hg'
  exact ⟨g', hg', hindex⟩

lemma run_frozen (hfresh : Fresh env s₀) (run : Run (GarStep env) s₀ tr s)
    (hopen : s.Opened index epoch) (run' : Run (GarStep env) s later s')
    (hclose : Trace.Avoids (later ++ tr) (·.IsCloseEpochSettings))
    (hstays : ∀ x ∈ later, ∃ y, x.before.Opened index y) :
    Frozen index epoch.activeGatewayCount s s' := by
  obtain ⟨-, hR⟩ := run_footing hfresh run
  induction run' with
  | nil =>
    have hroom := (run_oneOpen hfresh run
      fun x hx => hclose x (List.mem_append_right _ hx)).room index epoch hopen
    refine ⟨.of_registry hroom rfl, fun k g hg _ => ⟨g, hg, rfl⟩, fun y hy => ?_⟩
    rw [Option.some.inj (hopen.1.symm.trans hy.1)]
  | @cons later s₁ e s₂ run₁ last ih =>
    have hclose₁ : Trace.Avoids (later ++ tr) (·.IsCloseEpochSettings) :=
      fun x hx => hclose x (List.mem_cons_of_mem _ hx)
    have hbefore := ih hclose₁ fun x hx => hstays x (List.mem_cons_of_mem _ hx)
    have whole := run.append run₁
    obtain ⟨hL₁, hR₁⟩ := run_footing hfresh whole
    obtain ⟨-, hR₂⟩ := run_footing hfresh (whole.cons last)
    have hone := run_oneOpen hfresh whole hclose₁
    obtain ⟨y, hy⟩ := hstays _ List.mem_cons_self
    have hy : s₁.Opened index y := hy
    have hcount := hbefore.counted y hy
    rcases garStep_cases last with ⟨i, hi, -, h⟩ | ⟨t, rfl⟩
    · have hslots := hcount ▸ handler_slotsKept hL₁ hR₁ hone hy h
      have hall := hbefore.slots.trans hslots
      refine ⟨hall, fun k g hg hm => hall.gateways hR hR₂ hg hm, fun z hz => ?_⟩
      have hc : ¬ i.IsCreateEpoch := by
        intro hc
        cases i <;> try exact hc.elim
        obtain ⟨settings, _, _, _, _, u, hset, -, -, -, -, -, hfinished, -⟩ := createEpoch_ok h
        exact hone.not_finished hy hset hfinished
      obtain ⟨z', hz', heq⟩ := handler_opened hc h hz
      rw [heq, Option.some.inj (hz'.1.symm.trans hy.1), hcount]
    · exact ⟨⟨hbefore.slots.room, hbefore.slots.address⟩, hbefore.gateways,
        fun z hz => hbefore.counted z hz⟩

/-- **The positions are frozen while the epoch is open.** From any state that is reached, for as
long as an epoch stays open, whoever joins, leaves or is pruned meanwhile: the slots that the epoch
counts keep their gateways, none of which disappears or moves. -/
theorem positions_frozen (hfresh : Fresh env s₀) (run : Run (GarStep env) s₀ tr s)
    (hopen : s.Opened index epoch) (run' : Run (GarStep env) s later s')
    (hclose : Trace.Avoids (later ++ tr) (·.IsCloseEpochSettings))
    (hstays : ∀ x ∈ later, ∃ y, x.before.Opened index y) :
    Frozen index epoch.activeGatewayCount s s' :=
  run_frozen hfresh run hopen run' hclose hstays

end

namespace SmallNetwork

/-- Epoch 0 is open, with one gateway. -/
def openedEpoch : Script :=
  ⟨[join 21, call 1002 (.initializeEpochs ⟨3⟩ ⟨⟨4⟩, 86400, 50, 2, 10, 4⟩),
    call 1002 (.setEpochsEnabled ⟨4⟩ true), call 1002 (.createEpoch ⟨24⟩ ⟨12⟩ [])], by
      decide +kernel⟩

lemma opened : ∃ epoch, (after openedEpoch.events).Opened 0 epoch ∧ epoch.activeGatewayCount =
    1 := by
  have h : ((after openedEpoch.events).epochs 0).map
      (fun epoch => (epoch.rewardsDistributed, epoch.activeGatewayCount)) = some (0, 1) := by
    unfold after
    decide +kernel
  obtain ⟨epoch, he, hval⟩ := Option.map_eq_some_iff.mp h
  obtain ⟨hzero, hone⟩ := Prod.mk.inj hval
  exact ⟨epoch, ⟨he, hzero⟩, hone⟩

end SmallNetwork

open SmallNetwork in
theorem one_open_epoch_small : OneOpen (after openedEpoch.events) := by
  obtain ⟨tr, run, hl⟩ := run_after openedEpoch.events openedEpoch.works
  exact one_open_epoch fresh run (avoids_of_labels hl (by
    simp [openedEpoch, join, call, Instruction.IsCloseEpochSettings]))

open SmallNetwork in
/-- A second gateway joins the open epoch. -/
theorem positions_frozen_small : ∃ s', GarStep chain (after openedEpoch.events) (join 22) s' ∧
    Frozen 0 1 (after openedEpoch.events) s' := by
  obtain ⟨tr, run, hl⟩ := run_after openedEpoch.events openedEpoch.works
  obtain ⟨epoch, hopen, hone⟩ := opened
  have hok : ((join 22).exec chain (after openedEpoch.events)).isOk = true := by
    unfold after
    decide +kernel
  have hstep : GarStep chain (after openedEpoch.events) (join 22) _ :=
    eq_ok_outcome (s := after openedEpoch.events) hok
  refine ⟨_, hstep, hone ▸ positions_frozen fresh run hopen (.cons .nil hstep)
    ?_ ?_⟩
  · refine avoids_of_labels (?_ : _ = (openedEpoch.events ++ [join 22]).reverse) ?_
    · simp [hl]
    simp [openedEpoch, join, call, Instruction.IsCloseEpochSettings]
  · intro x hx
    obtain rfl := List.mem_singleton.mp hx
    exact ⟨epoch, hopen⟩

end Gar
end ArioSolana
