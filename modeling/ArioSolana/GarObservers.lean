import ArioSolana.GarStakers

/-!
# Observer addresses

A lookup account names the gateway that an observer address belongs to. Joining and changing the
observer create it, so every joined gateway has its own. Departing closes it only when the caller
passed it, so that a caller who leaves it out keeps the address of a departed gateway taken.
-/

namespace ArioSolana
namespace Gar

open Checked Solana

variable {env : Env} {s s' s₀ : State} {k o : Pubkey} {tr : Trace} {e : Event} {clock : Clock}
  {i : Instruction}

/-- A step is an instruction of the program, or it touches token accounts only. -/
lemma garStep_cases (h : GarStep env s e s') :
    (∃ i, e.action = .call i ∧ (∀ k ∈ i.signer, env.CanSign k) ∧
      i.handler env e.clock s = .ok s') ∨
    ∃ t, s' = { s with tokens := t } := by
  obtain ⟨clock, action⟩ := e
  simp only [GarStep, Event.exec] at h
  cases action with
  | call i =>
    simp only [Instruction.exec, bind_eq_ok, require_eq_ok, exists_const] at h
    exact .inl ⟨i, rfl, h.1, h.2⟩
  | walletTransfer source destination authority amount =>
    simp only [bind_eq_ok, require_eq_ok, splTransfer_eq_ok, exists_const] at h
    obtain ⟨-, t, -, rfl⟩ := h
    exact .inr ⟨t, rfl⟩
  | openTokenAccount key mint owner =>
    simp only [bind_eq_ok, requireAbsent_eq_ok, pure_eq_ok, exists_const] at h
    obtain ⟨-, rfl⟩ := h
    exact .inr ⟨_, rfl⟩

/-! ### What the lookups say -/

/-- Every joined gateway has the lookup of its observer. -/
def Indexed (s : State) : Prop :=
  ∀ k g, s.gateways k = some g → g.status = .joined → s.observerLookups g.observerAddress = some ⟨k⟩

/-- Every lookup is the one of a joined gateway. -/
def LookupsLive (s : State) : Prop :=
  ∀ o l, s.observerLookups o = some l →
    ∃ g, s.gateways l.gateway = some g ∧ g.status = .joined ∧ g.observerAddress = o

/-- An instruction by which a gateway departs passes, as its last account, the lookup of the
gateway's observer. Other instructions need not. -/
def Instruction.ClosesLookup (i : Instruction) (s : State) : Prop :=
  match i with
  | .leaveNetwork operator _ remaining | .pruneGateway operator _ _ _ remaining =>
    ∀ g, s.gateways operator = some g → PassesLookup g.observerAddress remaining
  | _ => True

/-- Every departure of a history passes the lookup of the departing gateway. -/
def LookupsPassed (tr : Trace) : Prop :=
  ∀ x ∈ tr, ∀ i, x.label.action = .call i → i.ClosesLookup x.before

/-! ### Instructions that leave the lookups alone -/

lemma distributeEpoch_lookups {clock : ℤ} {index : ℕ} {p q : Pubkey} {remaining : List AccountMeta}
    (hF : Footing env s) (hR : Registered s)
    (h : distributeEpoch env clock index p q remaining s = .ok s') :
    s'.observerLookups = s.observerLookups := by
  obtain ⟨settings, epoch, -, -, rfl, rfl, -, -, -, ⟨-, -, rfl⟩ |
    ⟨batch, payout, t, -, hb, hpay, -, -, hs'⟩⟩ := distributeEpoch_ok h
  · rfl
  · obtain ⟨G, hrest⟩ := (handed_of_batch hF hR hb hpay).1.rest
    rw [hs', hrest]

lemma handler_lookups (hF : Footing env s) (hR : Registered s)
    (hl : ¬ i.IsLifecycle)
    (h : i.handler env clock s = .ok s') : s'.observerLookups = s.observerLookups := by
  by_cases he : i.IsEpochOnly
  · obtain ⟨_, _, _, _, rfl⟩ := handler_epochOnly he h
    rfl
  · by_cases hb : i.IsBatch
    · cases i <;> try exact hb.elim
      case tallyWeights index remaining =>
        obtain ⟨settings, epoch, s₁, epoch', -, -, -, -, -, hbatch, rfl⟩ := tallyWeights_ok h
        obtain ⟨G, r, rfl⟩ := (tallyBatch_tallied hbatch).rest
        rfl
      case distributeEpoch index treasury pool remaining => exact distributeEpoch_lookups hF hR h
    · exact (handler_quiet hF he hb hl h).observerLookups

/-- Who observes for a gateway, and whether it is joined. -/
def Gateway.watch (g : Gateway) : GatewayStatus × Pubkey := (g.status, g.observerAddress)

def State.watches (s : State) (k : Pubkey) : Option (GatewayStatus × Pubkey) :=
  (s.gateways k).map Gateway.watch

lemma watches_of_seats (h : s'.seats = s.seats) : s'.watches = s.watches := by
  have hmap : ∀ x : State, x.watches = fun i =>
      (x.seats i).map fun y => (y.status, y.observerAddress) := by
    intro x
    funext i
    simp only [State.watches, State.seats, Option.map_map]
    rfl
  rw [hmap, hmap, h]

lemma watch_of {g' : Gateway} (h : s'.watches = s.watches) (hg' : s'.gateways k = some g') :
    ∃ g, s.gateways k = some g ∧ g.status = g'.status ∧
      g.observerAddress = g'.observerAddress := by
  have := congrFun h k
  rw [State.watches, State.watches, hg'] at this
  obtain ⟨g, hg, heq⟩ := Option.map_eq_some_iff.mp this.symm
  exact ⟨g, hg, congrArg Prod.fst heq, congrArg Prod.snd heq⟩

lemma Indexed.of_watches (h : Indexed s) (hw : s'.watches = s.watches)
    (hl : s'.observerLookups = s.observerLookups) : Indexed s' := by
  intro k g' hg' hst
  obtain ⟨g, hg, hst', hobs⟩ := watch_of hw hg'
  rw [hl, ← hobs]
  exact h k g hg (hst'.trans hst)

lemma LookupsLive.of_watches (h : LookupsLive s) (hw : s'.watches = s.watches)
    (hl : s'.observerLookups = s.observerLookups) : LookupsLive s' := by
  intro o l hlook
  rw [hl] at hlook
  obtain ⟨g, hg, hst, hobs⟩ := h o l hlook
  obtain ⟨g', hg', hst', hobs'⟩ := watch_of hw.symm hg
  exact ⟨g', hg', hst'.trans hst, hobs'.trans hobs⟩

/-! ### The lifecycle -/

section Lifecycle

variable {g g' : Gateway}

lemma Indexed.join (h : Indexed s) (hfree : s.observerLookups g.observerAddress = none)
    (hG : s'.gateways = Function.update s.gateways k (some g))
    (hl : s'.observerLookups
      = Function.update s.observerLookups g.observerAddress (some ⟨k⟩)) : Indexed s' := by
  intro i x hx hst
  by_cases hi : i = k
  · subst hi
    obtain rfl : g = x := by simpa [hG] using hx
    rw [hl, Function.update_self]
  · have hx' : s.gateways i = some x := by simpa [hG, hi] using hx
    have hlook := h i x hx' hst
    have hne : x.observerAddress ≠ g.observerAddress := by
      intro heq
      rw [heq, hfree] at hlook
      cases hlook
    rw [hl, Function.update_of_ne hne, hlook]

lemma LookupsLive.join (h : LookupsLive s) (hnone : s.gateways k = none) (hst : g.status = .joined)
    (hG : s'.gateways = Function.update s.gateways k (some g))
    (hl : s'.observerLookups
      = Function.update s.observerLookups g.observerAddress (some ⟨k⟩)) : LookupsLive s' := by
  intro o l hlook
  by_cases ho : o = g.observerAddress
  · subst ho
    obtain rfl : ⟨k⟩ = l := by simpa [hl] using hlook
    exact ⟨g, by rw [hG, Function.update_self], hst, rfl⟩
  · rw [hl, Function.update_of_ne ho] at hlook
    obtain ⟨x, hx, hst', hobs⟩ := h o l hlook
    have hne : l.gateway ≠ k := by
      intro heq
      rw [heq, hnone] at hx
      cases hx
    exact ⟨x, by rw [hG, Function.update_of_ne hne, hx], hst', hobs⟩

lemma Indexed.depart (h : Indexed s) (hg : s.gateways k = some g) (hj : g.status = .joined)
    (hst : g'.status = .leaving)
    (hG : s'.gateways = Function.update s.gateways k (some g'))
    (hl : s'.observerLookups = s.observerLookups ∨
      s'.observerLookups = Function.update s.observerLookups g.observerAddress none) :
    Indexed s' := by
  intro i x hx hstx
  have hi : i ≠ k := by
    rintro rfl
    obtain rfl : g' = x := by simpa [hG] using hx
    rw [hst] at hstx
    cases hstx
  have hx' : s.gateways i = some x := by simpa [hG, hi] using hx
  have hlook := h i x hx' hstx
  rcases hl with hl | hl
  · rw [hl, hlook]
  · have hne : x.observerAddress ≠ g.observerAddress := by
      intro heq
      rw [heq, h k g hg hj] at hlook
      cases hlook
      exact hi rfl
    rw [hl, Function.update_of_ne hne, hlook]

lemma LookupsLive.depart (h : LookupsLive s) (hg : s.gateways k = some g)
    (hG : s'.gateways = Function.update s.gateways k (some g'))
    (hl : s'.observerLookups = Function.update s.observerLookups g.observerAddress none) :
    LookupsLive s' := by
  intro o l hlook
  have ho : o ≠ g.observerAddress := by
    rintro rfl
    rw [hl, Function.update_self] at hlook
    cases hlook
  rw [hl, Function.update_of_ne ho] at hlook
  obtain ⟨x, hx, hst, hobs⟩ := h o l hlook
  have hne : l.gateway ≠ k := by
    intro heq
    rw [heq, hg] at hx
    cases hx
    exact ho hobs.symm
  exact ⟨x, by rw [hG, Function.update_of_ne hne, hx], hst, hobs⟩

lemma Indexed.change (h : Indexed s) (hg : s.gateways k = some g) (hj : g.status = .joined)
    (hfree : s.observerLookups o = none) (hne : o ≠ g.observerAddress)
    (hG : s'.gateways = Function.update s.gateways k (some { g with observerAddress := o }))
    (hl : s'.observerLookups = Function.update
      (Function.update s.observerLookups o (some ⟨k⟩)) g.observerAddress none) : Indexed s' := by
  intro i x hx hst
  by_cases hi : i = k
  · subst hi
    obtain rfl : { g with observerAddress := o } = x := by simpa [hG] using hx
    rw [hl]
    simp only
    rw [Function.update_of_ne hne, Function.update_self]
  · have hx' : s.gateways i = some x := by simpa [hG, hi] using hx
    have hlook := h i x hx' hst
    have h1 : x.observerAddress ≠ g.observerAddress := by
      intro heq
      rw [heq, h k g hg hj] at hlook
      cases hlook
      exact hi rfl
    have h2 : x.observerAddress ≠ o := by
      intro heq
      rw [heq, hfree] at hlook
      cases hlook
    rw [hl, Function.update_of_ne h1, Function.update_of_ne h2, hlook]

lemma LookupsLive.change (h : LookupsLive s) (hg : s.gateways k = some g) (hj : g.status = .joined)
    (hG : s'.gateways = Function.update s.gateways k (some { g with observerAddress := o }))
    (hl : s'.observerLookups = Function.update
      (Function.update s.observerLookups o (some ⟨k⟩)) g.observerAddress none) :
    LookupsLive s' := by
  intro p l hlook
  have hp : p ≠ g.observerAddress := by
    rintro rfl
    rw [hl, Function.update_self] at hlook
    cases hlook
  rw [hl, Function.update_of_ne hp] at hlook
  by_cases hpo : p = o
  · subst hpo
    obtain rfl : ⟨k⟩ = l := by simpa using hlook
    exact ⟨{ g with observerAddress := p }, by rw [hG, Function.update_self], hj, rfl⟩
  · rw [Function.update_of_ne hpo] at hlook
    obtain ⟨x, hx, hst, hobs⟩ := h p l hlook
    have hne : l.gateway ≠ k := by
      intro heq
      rw [heq, hg] at hx
      cases hx
      exact hp hobs.symm
    exact ⟨x, by rw [hG, Function.update_of_ne hne, hx], hst, hobs⟩

lemma moveLastSlot_watches {index : ℕ} {remaining : List AccountMeta}
    (h : moveLastSlot index remaining s = .ok s') :
    s'.observerLookups = s.observerLookups ∧ s'.watches = s.watches := by
  rcases moveLastSlot_ok h with ⟨-, rfl⟩ | ⟨x, -, hx, rfl⟩
  · exact ⟨rfl, rfl⟩
  · refine ⟨rfl, ?_⟩
    funext i
    simp only [State.watches]
    by_cases hi : i = (s.registry.gateways (s.registry.count - 1)).address
    · rw [hi, Function.update_self, hx]
      rfl
    · rw [Function.update_of_ne hi]

lemma Indexed.drop (h : Indexed s) (hG : s'.gateways = Function.update s.gateways k none)
    (hl : s'.observerLookups = s.observerLookups) : Indexed s' := by
  intro i x hx hst
  have hi : i ≠ k := by
    rintro rfl
    rw [hG, Function.update_self] at hx
    cases hx
  rw [hG, Function.update_of_ne hi] at hx
  rw [hl]
  exact h i x hx hst

lemma LookupsLive.drop (h : LookupsLive s) (hj : ∀ g, s.gateways k = some g → g.status ≠ .joined)
    (hG : s'.gateways = Function.update s.gateways k none)
    (hl : s'.observerLookups = s.observerLookups) : LookupsLive s' := by
  intro o l hlook
  rw [hl] at hlook
  obtain ⟨x, hx, hst, hobs⟩ := h o l hlook
  have hne : l.gateway ≠ k := by
    intro heq
    rw [heq] at hx
    exact hj x hx hst
  exact ⟨x, by rw [hG, Function.update_of_ne hne, hx], hst, hobs⟩

end Lifecycle

/-! ### Runs -/

/-- **One step and the joined gateways.** Whatever accounts a caller passes, a joined gateway has
its lookup. -/
theorem step_indexed (hF : Footing env s) (hR : Registered s) (h : GarStep env s e s')
    (hI : Indexed s) : Indexed s' := by
  rcases garStep_cases h with ⟨i, -, -, h⟩ | ⟨t, rfl⟩
  · by_cases hl : i.IsLifecycle
    · cases i <;> try exact hl.elim
      all_goals simp only [Instruction.handler] at h
      case joinNetwork operator account pool params =>
        obtain ⟨g, t, -, hfree, -, -, -, -, -, -, -, -, -, -, -, -, hobs, -, -, rfl⟩ :=
          joinNetwork_ok h
        rw [← hobs] at hfree
        exact hI.join hfree rfl (by rw [hobs])
      case leaveNetwork operator excess remaining =>
        obtain ⟨g, settings, C, W, L, hg, -, -, hj, -, -, -, hL', rfl⟩ := leaveNetwork_ok h
        exact hI.depart hg hj rfl rfl (hL'.imp_left And.right)
      case pruneGateway operator pool treasury excess remaining =>
        obtain ⟨g, settings, slash, C, W, L, t, hg, -, -, hj, -, -, -, -, -, -, hL', rfl⟩ :=
          pruneGateway_ok h
        exact hI.depart hg hj rfl rfl (hL'.imp_left And.right)
      case finalizeGone operator remaining =>
        obtain ⟨g, settings, s₁, hg, -, -, hst, -, -, -, -, -, hmove, rfl⟩ := finalizeGone_ok h
        obtain ⟨hlook, hw⟩ := moveLastSlot_watches hmove
        exact (hI.of_watches hw hlook).drop rfl rfl
      case updateObserverAddress operator newObserver =>
        obtain ⟨g, hg, -, hj, -, hfree, hne, rfl⟩ := updateObserverAddress_ok h
        exact hI.change hg hj hfree hne rfl rfl
    · exact hI.of_watches (watches_of_seats (handler_sameSeats hF hR hl h).seats)
        (handler_lookups hF hR hl h)
  · exact hI

/-- **One step and the lookups.** A departure that passes the lookup leaves none behind. -/
theorem step_lookupsLive (hF : Footing env s) (hR : Registered s) (h : GarStep env s e s')
    (hclose : ∀ i, e.action = .call i → i.ClosesLookup s) (hV : LookupsLive s) :
    LookupsLive s' := by
  rcases garStep_cases h with ⟨i, he, -, h⟩ | ⟨t, rfl⟩
  · have hpass := hclose i he
    by_cases hl : i.IsLifecycle
    · cases i <;> try exact hl.elim
      all_goals simp only [Instruction.handler] at h
      case joinNetwork operator account pool params =>
        obtain ⟨g, t, hnone, -, -, -, -, -, -, -, -, hst, -, -, -, -, hobs, -, -, rfl⟩ :=
          joinNetwork_ok h
        exact hV.join hnone hst rfl (by rw [hobs])
      case leaveNetwork operator excess remaining =>
        obtain ⟨g, settings, C, W, L, hg, -, -, -, -, -, -, hL', rfl⟩ := leaveNetwork_ok h
        exact hV.depart hg rfl (hL'.resolve_left fun hno => hno.1 (hpass g hg))
      case pruneGateway operator pool treasury excess remaining =>
        obtain ⟨g, settings, slash, C, W, L, t, hg, -, -, -, -, -, -, -, -, -, hL', rfl⟩ :=
          pruneGateway_ok h
        exact hV.depart hg rfl (hL'.resolve_left fun hno => hno.1 (hpass g hg))
      case finalizeGone operator remaining =>
        obtain ⟨g, settings, s₁, hg, -, -, hst, -, -, -, -, -, hmove, rfl⟩ := finalizeGone_ok h
        obtain ⟨hlook, hw⟩ := moveLastSlot_watches hmove
        refine (hV.of_watches hw hlook).drop (fun x hx hj => ?_) rfl rfl
        obtain ⟨x', hx', hst', -⟩ := watch_of hw hx
        rw [hg] at hx'
        cases hx'
        rw [← hst', hst] at hj
        cases hj
      case updateObserverAddress operator newObserver =>
        obtain ⟨g, hg, -, hj, -, -, -, rfl⟩ := updateObserverAddress_ok h
        exact hV.change hg hj rfl rfl
    · exact hV.of_watches (watches_of_seats (handler_sameSeats hF hR hl h).seats)
        (handler_lookups hF hR hl h)
  · exact hV

lemma Fresh.lookups (h : Fresh env s) : Indexed s ∧ LookupsLive s := by
  obtain ⟨payer, mint, params, tokens, hinit⟩ := h.initialized
  simp only [initializeGar, bind_eq_ok, pure_eq_ok] at hinit
  obtain ⟨-, -, rfl⟩ := hinit
  refine ⟨?_, ?_⟩
  · rintro k g ⟨⟩
  · rintro o l ⟨⟩

lemma run_indexed (hfresh : Fresh env s₀) (run : Run (GarStep env) s₀ tr s) :
    Indexed s := by
  induction run with
  | nil => exact hfresh.lookups.1
  | cons run last ih =>
    obtain ⟨hF, hR⟩ := run_footing hfresh run
    exact step_indexed hF hR last ih

lemma run_lookupsLive (hfresh : Fresh env s₀) (run : Run (GarStep env) s₀ tr s)
    (hpass : LookupsPassed tr) : LookupsLive s := by
  induction run with
  | nil => exact hfresh.lookups.2
  | cons run last ih =>
    obtain ⟨hF, hR⟩ := run_footing hfresh run
    exact step_lookupsLive hF hR last (hpass _ List.mem_cons_self)
      (ih fun x hx => hpass x (List.mem_cons_of_mem _ hx))

/-- **Observer addresses.** When every departure passes the lookup of the gateway, the lookups are
exactly those of the joined gateways: no two of them share an observer, an address that none of
them has is free, and a joined gateway can change to any free address. -/
theorem observer_lookups_exact (hfresh : Fresh env s₀) (run : Run (GarStep env) s₀ tr s)
    (hpass : LookupsPassed tr) :
    (∀ k g, s.gateways k = some g → g.status = .joined →
      s.observerLookups g.observerAddress = some ⟨g.operator⟩) ∧
    (∀ o l, s.observerLookups o = some l → ∃ g, s.gateways l.gateway = some g ∧
      g.operator = l.gateway ∧ g.status = .joined ∧ g.observerAddress = o) ∧
    (∀ k g k' g', s.gateways k = some g → s.gateways k' = some g' → g.status = .joined →
      g'.status = .joined → g.observerAddress = g'.observerAddress → k = k') ∧
    ∀ o, (∀ k g, s.gateways k = some g → g.status = .joined → g.observerAddress ≠ o) →
      s.observerLookups o = none ∧
      ∀ k g, s.gateways k = some g → g.status = .joined →
        ∃ s', updateObserverAddress k o s = .ok s' := by
  obtain ⟨-, hR⟩ := run_footing hfresh run
  have hI := run_indexed hfresh run
  have hV := run_lookupsLive hfresh run hpass
  have hfree : ∀ o, (∀ k g, s.gateways k = some g → g.status = .joined → g.observerAddress ≠ o) →
      s.observerLookups o = none := by
    intro o hno
    rcases hlook : s.observerLookups o with _ | l
    · rfl
    · obtain ⟨g, hg, hst, hobs⟩ := hV o l hlook
      exact absurd hobs (hno _ g hg hst)
  refine ⟨fun k g hg hst => ?_, fun o l hlook => ?_, fun k g k' g' hg hg' hst hst' hobs => ?_,
    fun o hno => ⟨hfree o hno, fun k g hg hst => ?_⟩⟩
  · rw [hR.operator k g hg]
    exact hI k g hg hst
  · obtain ⟨g, hg, hst, hobs⟩ := hV o l hlook
    exact ⟨g, hg, hR.operator _ g hg, hst, hobs⟩
  · have h1 := hI k g hg hst
    rw [hobs, hI k' g' hg' hst'] at h1
    cases h1
    rfl
  · have hop := hR.operator k g hg
    have hlook := hI k g hg hst
    have hne := (hno k g hg hst).symm
    simp only [updateObserverAddress, bind_eq_ok, loadOwnGateway_eq_ok, okOr_eq_ok,
      requireAbsent_eq_ok, require_eq_ok, pure_eq_ok, exists_const]
    exact ⟨_, g, ⟨hg, hop⟩, _, hlook, hfree o hno, hst, hne, rfl⟩

namespace SmallNetwork

def initEpochs : Event := ⟨⟨0, 999⟩, .call (.initializeEpochs ⟨3⟩ ⟨⟨4⟩, 86400, 50, 2, 15552000, 4⟩)⟩

/-- Operator `n` leaves, with a vault for the stake above the minimum. -/
def leave (n : Fin (2 ^ 256)) (remaining : List AccountMeta) : Event :=
  ⟨⟨0, 1003⟩, .call (.leaveNetwork ⟨n⟩ (some (.withdrawal ⟨n⟩ 1)) remaining)⟩

def twoGateways : Script := ⟨[initEpochs, join 21, join 22], by decide +kernel⟩

end SmallNetwork

open SmallNetwork in
theorem observer_lookups_exact_small : ∃ (s s' : State), s = after twoGateways.events ∧
    (leave 21 [⟨.observerLookup ⟨41⟩, true⟩]).exec chain s = .ok s' ∧
    ∀ k g, s'.gateways k = some g → g.status = .joined →
      s'.observerLookups g.observerAddress = some ⟨g.operator⟩ := by
  set es := twoGateways.events with hes
  set e := leave 21 [⟨.observerLookup ⟨41⟩, true⟩] with he
  obtain ⟨tr, run, hl⟩ := run_after es twoGateways.works
  have last : e.exec chain (after es) = .ok (outcome (e.exec chain (after es)) start) :=
    eq_ok_outcome (by unfold after; decide +kernel)
  have hlabels : ∀ x ∈ tr, x.label ∈ es := by
    intro x hx
    rw [← List.mem_reverse, ← hl]
    exact List.mem_map_of_mem hx
  have hobs : ((after es).gateways ⟨21⟩).map (·.observerAddress) = some ⟨41⟩ := by
    unfold after
    decide +kernel
  refine ⟨_, _, rfl, last, (observer_lookups_exact fresh (run.cons last) ?_).1⟩
  intro x hx i hi
  rcases List.mem_cons.mp hx with rfl | hx
  · cases hi
    intro g hg
    rw [hg] at hobs
    have haddr : g.observerAddress = ⟨41⟩ := Option.some.inj hobs
    exact ⟨⟨.observerLookup ⟨41⟩, true⟩, rfl, by rw [haddr], rfl⟩
  · have hmem := hlabels x hx
    simp only [hes, twoGateways, List.mem_cons, List.not_mem_nil, or_false] at hmem
    rcases hmem with h | h | h <;> · rw [h] at hi; cases hi; trivial

-- operator 21 leaves without passing its lookup, which stays
open SmallNetwork in
/-- A departure without the lookup keeps the observer address taken: no gateway that is joined has
it, and yet another operator cannot change to it. -/
theorem lookup_left_behind : ∃ (tr : Trace) (s : State), Run (GarStep chain) start tr s ∧
    (∃ o l, s.observerLookups o = some l ∧
      ¬ ∃ g, s.gateways l.gateway = some g ∧ g.status = .joined ∧ g.observerAddress = o) ∧
    ((Instruction.updateObserverAddress ⟨22⟩ ⟨41⟩).exec chain ⟨0, 1004⟩ s).isOk = false := by
  obtain ⟨tr, run, -⟩ := run_after [initEpochs, join 21, join 22, leave 21 []] (by decide +kernel)
  refine ⟨tr, _, run, ⟨⟨41⟩, ⟨⟨21⟩⟩, ?_, ?_⟩, by unfold after; decide +kernel⟩
  · have h : ((after [initEpochs, join 21, join 22, leave 21 []]).observerLookups ⟨41⟩).map
        (·.gateway) = some ⟨21⟩ := by
      unfold after
      decide +kernel
    obtain ⟨l, hl, heq⟩ := Option.map_eq_some_iff.mp h
    rw [hl, ← heq]
  · rintro ⟨g, hg, hst, -⟩
    have h : ((after [initEpochs, join 21, join 22, leave 21 []]).gateways ⟨21⟩).map
        (·.status) = some .leaving := by
      unfold after
      decide +kernel
    rw [hg] at h
    rw [Option.map_some, hst] at h
    cases h

end Gar
end ArioSolana
