import ArioSolana.GarNames

/-!
# The arrays of an epoch

An epoch has room for 50 observers and two names. The names always fit. The observers fit as long
as the roulette selects at most 50 slots: nothing bounds the number of observers in the settings,
which is a byte.
-/

namespace ArioSolana
namespace Gar

open Checked Solana Roulette

/-! ### How many slots are selected -/

/-- The cached weights of the first `n` slots. -/
def GatewayRegistry.weights (registry : GatewayRegistry) (n : ℕ) : List ℕ :=
  (List.range n).map fun i => (registry.gateways i).compositeWeight

/-- The slots in whose sectors the first `rounds` hashes after `hashchain` fall. -/
def hitSlots (env : Env) (hashchain : Hash) (weights : List ℕ) (rounds : ℕ) : Finset ℕ :=
  (picks (rehash env) (fun hash => sectorFrom (randomValue weights.sum hash) 0 weights) rounds
    (rehash env hashchain)).toFinset

section

variable {env : Env} {hashchain : Hash} {weights : List ℕ} {registry : GatewayRegistry}
  {maxObservers n : ℕ} {sums : List ℕ}

@[simp] lemma length_weights : (registry.weights n).length = n := by
  simp [GatewayRegistry.weights]

lemma weights_succ : registry.weights (n + 1)
    = registry.weights n ++ [(registry.gateways n).compositeWeight] := by
  simp [GatewayRegistry.weights, List.range_succ]

lemma hitSlots_of_sum_eq_zero (h : weights.sum = 0) (rounds : ℕ) :
    hitSlots env hashchain weights rounds = ∅ := by
  have hnone : ∀ hash, sectorFrom (randomValue weights.sum hash) 0 weights = none := by
    intro hash
    by_contra hsome
    obtain ⟨i, hi⟩ := Option.ne_none_iff_exists'.mp hsome
    obtain ⟨hlt, -, hsector⟩ := (sectorFrom_eq_some (Nat.zero_le _)).mp hi
    have htake := List.Sublist.sum_le_sum (List.take_sublist (i + 1) weights)
      fun _ _ => Nat.zero_le _
    omega
  have hpicks : ∀ x, picks (rehash env)
      (fun hash => sectorFrom (randomValue weights.sum hash) 0 weights) rounds x = [] := by
    induction rounds with
    | zero => exact fun _ => rfl
    | succ rounds ih =>
      intro x
      rw [picks, hnone, ih]
      rfl
  rw [hitSlots, hpicks]
  rfl

/-- **The roulette selects what its hashes hit**, up to the quota. -/
theorem linearSelectIndices_length (hsum : weights.sum < 2 ^ 64) :
    (linearSelectIndices env hashchain weights maxObservers).length
      = min (min maxObservers weights.length)
        (hitSlots env hashchain weights (min maxObservers weights.length * 10)).card := by
  simp only [linearSelectIndices, liveTotal_eq (by omega : weights.sum < 2 ^ 128)]
  split
  · rename_i hnone
    rcases hnone with hzero | hcap
    · rw [hitSlots_of_sum_eq_zero hzero]
      simp
    · rw [hcap]
      simp
  · rename_i hsome
    rw [draws_length List.nodup_nil (Nat.zero_le _), List.nil_append, hitSlots]
    congr 2
    refine congrArg _ (congrArg (picks _ · _ _) (funext fun hash => ?_))
    obtain ⟨i, hi, hwalk⟩ := exists_drawn hsum (fun h => hsome (.inl h)) hash
    rw [hwalk, hi]

lemma prefixSums_ok (h : prefixSums registry n = .ok sums) :
    (registry.weights n).sum < 2 ^ 64 ∧ sums = inclusiveSums (registry.weights n) := by
  have hfits : (registry.weights n).sum < 2 ^ 64 := by
    induction n generalizing sums with
    | zero => simp [GatewayRegistry.weights]
    | succ n ih =>
      simp only [prefixSums, bind_eq_ok, pure_eq_ok] at h
      obtain ⟨before, hbefore, running, hrunning, -⟩ := h
      have hlt := ih hbefore
      rw [prefixSums_eq hlt] at hbefore
      obtain rfl := Except.ok.inj hbefore
      rw [getLastD_inclusiveSums, add64_eq_ok] at hrunning
      rw [weights_succ, List.sum_append, List.sum_singleton]
      exact hrunning.1
  exact ⟨hfits, Except.ok.inj (h.symm.trans (prefixSums_eq hfits))⟩

/-! ### Where prescription can panic -/

lemma bind_ne_error {α β : Type} {x : Except GarError α} {f : α → Except GarError β} {e : GarError}
    (hx : x ≠ .error e) (hf : ∀ a, x = .ok a → f a ≠ .error e) : x >>= f ≠ .error e := by
  cases x with
  | error e' =>
    intro h
    obtain rfl := Except.error.inj h
    exact hx rfl
  | ok a => exact hf a rfl

lemma okOr_ne_error {α : Type} {x : Option α} {e e' : GarError} (h : e' ≠ e) :
    okOr x e' ≠ .error e := by
  cases x with
  | none => exact fun heq => h (Except.error.inj heq)
  | some a => exact fun heq => by cases heq

lemma require_ne_error {P : Prop} [Decidable P] {e e' : GarError} (h : P ∨ e' ≠ e) :
    require P e' ≠ .error e := by
  unfold require
  split
  · exact fun heq => by cases heq
  · rename_i hP
    exact fun heq => h.resolve_left hP (Except.error.inj heq)

lemma prefixSums_ne_panicked : prefixSums registry n ≠ .error .panicked := by
  induction n with
  | zero => exact fun h => by cases h
  | succ n ih =>
    refine bind_ne_error ih fun before _ => bind_ne_error (okOr_ne_error (by decide)) ?_
    exact fun running _ h => by cases h

lemma resolveObservers_ne_panicked {s : State} {remaining : List AccountMeta} {slots : List ℕ} :
    resolveObservers s remaining slots ≠ .error .panicked := by
  induction slots with
  | nil => exact fun h => by cases h
  | cons slot slots ih =>
    refine bind_ne_error (okOr_ne_error (by decide)) fun _ _ =>
      bind_ne_error (okOr_ne_error (by decide)) fun _ _ =>
      bind_ne_error (require_ne_error (.inr (by decide))) fun _ _ => bind_ne_error ih ?_
    exact fun observers _ h => by cases h

lemma selectNames_ne_panicked {settings : EpochSettings} {count : ℕ}
    {remaining : List AccountMeta} {nameRegistry : RawAccount} {k : Pubkey} :
    selectNames env settings hashchain count remaining nameRegistry k ≠ .error .panicked := by
  unfold selectNames
  split
  · exact fun h => by cases h
  · split
    · exact fun h => by cases h
    · refine bind_ne_error (require_ne_error (.inr (by decide))) fun _ _ =>
        bind_ne_error (require_ne_error (.inr (by decide))) fun _ _ => ?_
      split
      · exact fun h => by cases h
      · dsimp only
        split
        · exact fun h => by cases h
        · exact fun h => by cases h

lemma nameDraws_length_le {data : List UInt8} {count quota rounds : ℕ} {hash : Hash}
    {names : List Hash} (h : names.length ≤ quota) :
    (nameDraws env data count quota rounds hash names).length ≤ quota := by
  induction rounds generalizing hash names with
  | zero => exact h
  | succ rounds ih =>
    simp only [nameDraws]
    split
    · exact h
    · refine ih ?_
      rw [List.length_append]
      have := Option.length_toList_le (o := (List.range count).findSome? fun probe =>
        (readNameEntry data ((hash.val % 2 ^ 64 % count + probe) % count)).filter (· ∉ names))
      omega

lemma selectNames_length_le {settings : EpochSettings} {count : ℕ}
    {remaining : List AccountMeta} {nameRegistry : RawAccount} {k : Pubkey}
    {drawn : Option (List Hash)}
    (h : selectNames env settings hashchain count remaining nameRegistry k = .ok drawn) :
    (drawn.getD []).length ≤ 2 := by
  unfold selectNames at h
  split at h
  · cases h
    exact Nat.zero_le _
  · split at h
    · cases h
      exact Nat.zero_le _
    · simp only [bind_eq_ok, require_eq_ok, exists_const] at h
      obtain ⟨-, -, h⟩ := h
      split at h
      · cases h
        exact Nat.zero_le _
      · split at h
        · cases h
          exact (nameDraws_length_le (Nat.zero_le _)).trans (by omega)
        · cases h
          exact Nat.zero_le _

end

/-! ### The claim on the arrays -/

/-- What prescription wrote stays inside the arrays of the epoch and inside the registry. -/
structure InBounds (registry : GatewayRegistry) (epoch epoch' : Epoch) : Prop where
  observers : ∃ slots : List ℕ, ∃ observers : List Pubkey,
    epoch'.observerCount = slots.length ∧ slots.length ≤ 50 ∧ observers.length = slots.length ∧
    (∀ i ∈ slots, i < epoch.activeGatewayCount) ∧
    epoch'.prescribedObserverGateways = overwrite epoch.prescribedObserverGateways
      (slots.map fun i => (registry.gateways i).address) ∧
    epoch'.prescribedObservers = overwrite epoch.prescribedObservers observers
  names : ∃ names : List Hash, names.length ≤ 2 ∧
    epoch'.prescribedNames = overwrite epoch.prescribedNames names

/-- The roulette's hashes hit at most 50 slots within its budget of rounds, or its quota is at most
50, or the weights do not even add up to a word. -/
def ObserversFit (env : Env) (hashchain : Hash) (weights : List ℕ) (maxObservers : ℕ) : Prop :=
  2 ^ 64 ≤ weights.sum ∨ min maxObservers weights.length ≤ 50 ∨
    (hitSlots env hashchain weights (min maxObservers weights.length * 10)).card ≤ 50

section

variable {env : Env} {index : ℕ} {remaining : List AccountMeta} {nameRegistry : RawAccount}
  {s s' : State} {settings : EpochSettings} {epoch epoch' : Epoch} {hashchain : Hash}
  {registry : GatewayRegistry} {n observers : ℕ} {sums : List ℕ}

lemma observersFit_iff (h : prefixSums registry n = .ok sums) :
    ObserversFit env hashchain (registry.weights n) observers ↔
      (rouletteSelectIndices env hashchain sums (min observers n)).length ≤ 50 := by
  obtain ⟨hlt, rfl⟩ := prefixSums_ok h
  rw [ObserversFit, rouletteSelectIndices_eq hlt, linearSelectIndices_length hlt, length_weights,
    min_eq_left (Nat.min_le_right observers n)]
  omega

lemma length_of_resolveObservers {slots : List ℕ} {keys : List Pubkey}
    (h : resolveObservers s remaining slots = .ok keys) : keys.length = slots.length := by
  induction slots generalizing keys with
  | nil =>
    cases h
    rfl
  | cons slot slots ih =>
    simp only [resolveObservers, bind_eq_ok, pure_eq_ok] at h
    obtain ⟨-, -, gateway, -, -, -, rest, hrest, rfl⟩ := h
    rw [List.length_cons, List.length_cons, ih hrest]

lemma prescribeEpoch_panicked (hset : s.epochSettings = some settings)
    (hepoch : s.epochs index = some epoch) (htallied : epoch.weightsTallied ≠ 0)
    (hopen : epoch.prescriptionsDone = 0) (hslots : epoch.activeGatewayCount ≤ 3000)
    (hfit : ¬ ObserversFit env epoch.hashchain (s.registry.weights epoch.activeGatewayCount)
      settings.prescribedObserverCount) :
    prescribeEpoch env index remaining nameRegistry s = .error .panicked := by
  have hlt : (s.registry.weights epoch.activeGatewayCount).sum < 2 ^ 64 :=
    Nat.lt_of_not_le fun h => hfit (.inl h)
  have hsums := prefixSums_eq hlt
  rw [observersFit_iff hsums] at hfit
  have hslots' : epoch.activeGatewayCount ≤ GatewayRegistry.maxGateways := hslots
  simp only [prescribeEpoch, loadEpochSettings, loadEpoch, hset, hepoch, okOr_some, ok_bind,
    require, if_pos htallied, if_pos hopen, if_pos hslots', hsums, if_neg hfit]
  rfl

lemma prescribeEpoch_ne_panicked (hset : s.epochSettings = some settings)
    (hepoch : s.epochs index = some epoch) (hslots : epoch.activeGatewayCount ≤ 3000)
    (hfit : ObserversFit env epoch.hashchain (s.registry.weights epoch.activeGatewayCount)
      settings.prescribedObserverCount) :
    prescribeEpoch env index remaining nameRegistry s ≠ .error .panicked := by
  unfold prescribeEpoch loadEpochSettings loadEpoch
  rw [hset, hepoch, okOr_some, ok_bind, okOr_some, ok_bind]
  refine bind_ne_error (require_ne_error (.inr (by decide))) fun _ _ =>
    bind_ne_error (require_ne_error (.inr (by decide))) fun _ _ =>
    bind_ne_error (require_ne_error (.inl hslots)) fun _ _ =>
    bind_ne_error prefixSums_ne_panicked fun sums hsums => ?_
  refine bind_ne_error (require_ne_error (.inl ((observersFit_iff hsums).mp hfit))) fun _ _ =>
    bind_ne_error resolveObservers_ne_panicked fun observers _ =>
    bind_ne_error selectNames_ne_panicked fun names _ => ?_
  exact fun h => by cases h

lemma prescribeEpoch_inBounds (h : prescribeEpoch env index remaining nameRegistry s = .ok s')
    (hepoch : s.epochs index = some epoch) (hepoch' : s'.epochs index = some epoch') :
    InBounds s.registry epoch epoch' := by
  obtain ⟨settings, epoch, sums, selected, observers, drawn, -, hepoch₁, -, -, hsums, hselected,
    hlength, hobservers, hdrawn, rfl⟩ := prescribeEpoch_ok h
  obtain rfl := Option.some.inj (hepoch.symm.trans hepoch₁)
  simp only [State.setEpoch, Function.update_self, Option.some.injEq] at hepoch'
  subst hepoch'
  refine ⟨⟨selected, observers, rfl, hlength, length_of_resolveObservers hobservers, ?_, rfl, rfl⟩,
    ⟨drawn.getD [], selectNames_length_le hdrawn, rfl⟩⟩
  obtain ⟨hlt, rfl⟩ := prefixSums_ok hsums
  rw [rouletteSelectIndices_eq hlt] at hselected
  intro i hi
  have hpos := (linearSelectIndices_spec hlt).2.2 i (hselected ▸ hi)
  by_contra hge
  rw [List.getD_eq_getElem?_getD, List.getElem?_eq_none (by rw [length_weights]; omega)] at hpos
  exact absurd hpos (by decide)

end

/-- **When prescription stays inside its arrays.** On an epoch that is ready for it, with at most
3000 slots, prescription neither stops in an index outside an array nor writes outside one exactly
if the observers fit. -/
theorem prescription_fits_iff (env : Env) (index : ℕ) (remaining : List AccountMeta)
    (nameRegistry : RawAccount) (s : State) (settings : EpochSettings) (epoch : Epoch)
    (hset : s.epochSettings = some settings) (hepoch : s.epochs index = some epoch)
    (htallied : epoch.weightsTallied ≠ 0) (hopen : epoch.prescriptionsDone = 0)
    (hslots : epoch.activeGatewayCount ≤ 3000) :
    (prescribeEpoch env index remaining nameRegistry s ≠ .error .panicked ∧
      ∀ s' epoch', prescribeEpoch env index remaining nameRegistry s = .ok s' →
        s'.epochs index = some epoch' → InBounds s.registry epoch epoch') ↔
    ObserversFit env epoch.hashchain (s.registry.weights epoch.activeGatewayCount)
      settings.prescribedObserverCount := by
  constructor
  · rintro ⟨hruns, -⟩
    by_contra hfit
    exact hruns (prescribeEpoch_panicked hset hepoch htallied hopen hslots hfit)
  · intro hfit
    exact ⟨prescribeEpoch_ne_panicked hset hepoch hslots hfit,
      fun s' epoch' h hepoch' => prescribeEpoch_inBounds h hepoch hepoch'⟩

namespace SmallWheel

/-- Two hundred slots of one weight. -/
def many : List ℕ := List.replicate 200 1

/-- The accounts of all their gateways, and the name registry. -/
def accounts : List AccountMeta :=
  (List.range 200).map (fun i => ⟨.gateway ((registry many).gateways i).address, false⟩)
    ++ [⟨.other ⟨13⟩, false⟩]

end SmallWheel

open SmallWheel in
theorem prescription_fits_iff_small :
    prescribeEpoch env 0 accounts nameRegistry (state weights 50 2) ≠ .error .panicked := by
  obtain ⟨settings, hset, hobservers⟩ : ∃ settings,
      (state weights 50 2).epochSettings = some settings ∧ settings.prescribedObserverCount = 50 :=
    Option.map_eq_some_iff.mp (by decide +kernel :
      (state weights 50 2).epochSettings.map (·.prescribedObserverCount) = some 50)
  refine ((prescription_fits_iff env 0 accounts nameRegistry _ settings (epoch 4) hset rfl
    (by decide) rfl (by decide)).mpr (.inr (.inl ?_))).1
  rw [hobservers]
  decide

open SmallWheel in
/-- 51 observers are accepted as a setting, but they leave the array. -/
theorem observers_leave_array :
    (initializeEpochs env 1000 ⟨3⟩ (params 51 2) SmallNetwork.start).toOption.bind
        (·.epochSettings) = (state many 51 2).epochSettings ∧
    (state many 51 2).epochSettings.map (·.prescribedObserverCount) = some 51 ∧
    prescribeEpoch env 0 accounts nameRegistry (state many 51 2) = .error .panicked := by
  have hcount : (state many 51 2).epochSettings.map (·.prescribedObserverCount) = some 51 := by
    decide +kernel
  obtain ⟨settings, hset, hobservers⟩ := Option.map_eq_some_iff.mp hcount
  have hepoch : (state many 51 2).epochs 0 = some (epoch many.length) := rfl
  have hslots : (epoch many.length).activeGatewayCount ≤ 3000 := by decide +kernel
  refine ⟨rfl, hcount, prescribeEpoch_panicked hset hepoch (by decide) rfl hslots ?_⟩
  rw [hobservers]
  unfold ObserversFit
  decide +kernel

end Gar
end ArioSolana
