import ArioSolana.GarEpochs
import ArioSolana.GarRoulette

/-!
# The names of an epoch

Each round of the name selection probes the whole registry from a random entry on, and so it finds a
new name as long as there is one. The budget of rounds is never what ends the selection.
-/

namespace ArioSolana
namespace Gar

open Checked Solana
open Borsh (leBytes)

/-- The bytes of entry `i` of a name registry. -/
def entryHash (data : List UInt8) (i : ℕ) : Hash :=
  Fin.ofNat (2 ^ 256) (leNat ((data.drop (48 + i * 40)).take 32))

/-- The first `count` entries lie inside the data. -/
def EntriesInside (data : List UInt8) (count : ℕ) : Prop :=
  ∀ i < count, 48 + i * 40 + 32 ≤ data.length

/-- The different names among the first `count` entries; an empty entry is no name. -/
def distinctNames (data : List UInt8) (count : ℕ) : Finset Hash :=
  ((List.range count).map (entryHash data)).toFinset.erase 0

section

variable {env : Env} {data : List UInt8} {count quota rounds start : ℕ} {hash n : Hash}
  {names : List Hash}

/-! ### Entries -/

lemma readNameEntry_eq_some {i : ℕ} (h : 48 + i * 40 + 32 ≤ data.length) :
    readNameEntry data i = some n ↔ entryHash data i = n ∧ n ≠ 0 := by
  unfold readNameEntry
  simp only [entryHash]
  rw [if_neg (by omega)]
  split
  · rename_i hzero
    constructor
    · intro hnone
      cases hnone
    · rintro ⟨rfl, hne⟩
      exact absurd hzero hne
  · rename_i hne
    rw [Option.some.injEq]
    exact ⟨fun heq => ⟨heq, heq ▸ hne⟩, fun heq => heq.1⟩

lemma mem_distinctNames : n ∈ distinctNames data count ↔ n ≠ 0 ∧ ∃ i < count, entryHash data i =
    n := by
  simp [distinctNames]

/-! ### One round -/

/-- What a round finds, probing from the entry `start` on. -/
def probe (data : List UInt8) (count start : ℕ) (names : List Hash) : Option Hash :=
  (List.range count).findSome? fun step =>
    (readNameEntry data ((start + step) % count)).filter fun n => !names.contains n

lemma probe_eq : (List.range count).findSome? (fun step =>
    (readNameEntry data ((start + step) % count)).filter (· ∉ names))
      = probe data count start names := by
  simp only [probe, List.contains_eq_mem, ← decide_not]

lemma probe_mem (hinside : EntriesInside data count) (h : probe data count start names = some n) :
    n ∈ distinctNames data count ∧ n ∉ names := by
  obtain ⟨step, hstep, hfound⟩ := List.exists_of_findSome?_eq_some h
  have hcount : 0 < count := Nat.zero_lt_of_lt (List.mem_range.mp hstep)
  have hlt : (start + step) % count < count := Nat.mod_lt _ hcount
  obtain ⟨hread, hnew⟩ := Option.filter_eq_some_iff.mp hfound
  obtain ⟨hentry, hne⟩ := (readNameEntry_eq_some (hinside _ hlt)).mp hread
  exact ⟨mem_distinctNames.mpr ⟨hne, _, hlt, hentry⟩, by simpa using hnew⟩

lemma exists_step (start : ℕ) {i : ℕ} (hi : i < count) :
    ∃ step < count, (start + step) % count = i := by
  have hcount : 0 < count := Nat.zero_lt_of_lt hi
  have hstart := Nat.mod_lt start hcount
  refine ⟨(i + count - start % count) % count, Nat.mod_lt _ hcount, ?_⟩
  rw [Nat.add_mod_mod]
  have hsplit := Nat.mod_add_div start count
  have hsum : start + (i + count - start % count) = i + count + count * (start / count) := by omega
  rw [hsum, Nat.add_mul_mod_self_left, Nat.add_mod_right, Nat.mod_eq_of_lt hi]

lemma probe_none (hinside : EntriesInside data count) (h : probe data count start names = none) :
    ∀ n ∈ distinctNames data count, n ∈ names := by
  intro n hn
  obtain ⟨hne, i, hi, hentry⟩ := mem_distinctNames.mp hn
  obtain ⟨step, hstep, hat⟩ := exists_step start hi
  have hnone := List.findSome?_eq_none_iff.mp h step (List.mem_range.mpr hstep)
  rw [hat, (readNameEntry_eq_some (hinside i hi)).mpr ⟨hentry, hne⟩] at hnone
  by_contra hnew
  simp [Option.filter, hnew] at hnone

/-! ### All rounds -/

/-- The names so far are different names of the registry. -/
structure Taken (data : List UInt8) (count : ℕ) (names : List Hash) : Prop where
  nodup : names.Nodup
  mem : ∀ n ∈ names, n ∈ distinctNames data count

lemma Taken.length_le (h : Taken data count names) :
    names.length ≤ (distinctNames data count).card := by
  rw [← List.toFinset_card_of_nodup h.nodup]
  exact Finset.card_le_card fun n hn => h.mem n (List.mem_toFinset.mp hn)

lemma Taken.snoc (h : Taken data count names) (hn : n ∈ distinctNames data count)
    (hnew : n ∉ names) : Taken data count (names ++ [n]) where
  nodup := List.nodup_append.mpr
    ⟨h.nodup, List.nodup_singleton n, fun a ha b hb hab => hnew (by simp_all)⟩
  mem m hm := by
    rcases List.mem_append.mp hm with hm | hm
    · exact h.mem m hm
    · exact List.mem_singleton.mp hm ▸ hn

lemma Taken.length_eq (h : Taken data count names)
    (hall : ∀ n ∈ distinctNames data count, n ∈ names) :
    names.length = (distinctNames data count).card := by
  refine h.length_le.antisymm ?_
  rw [← List.toFinset_card_of_nodup h.nodup]
  exact Finset.card_le_card fun n hn => List.mem_toFinset.mpr (hall n hn)

/-- **Each round takes one more name**, until the quota is full or the names run out. -/
theorem nameDraws_taken (hinside : EntriesInside data count) (h : Taken data count names)
    (hquota : names.length ≤ quota) :
    Taken data count (nameDraws env data count quota rounds hash names) ∧
      (nameDraws env data count quota rounds hash names).length
        = min quota (min (names.length + rounds) (distinctNames data count).card) := by
  have hle := h.length_le
  induction rounds generalizing hash names with
  | zero =>
    refine ⟨h, ?_⟩
    simp only [nameDraws]
    omega
  | succ rounds ih =>
    simp only [nameDraws]
    split
    · refine ⟨h, ?_⟩
      omega
    · rename_i hroom
      rw [probe_eq]
      cases hfound : probe data count (hash.val % 2 ^ 64 % count) names with
      | none =>
        have hall := h.length_eq (probe_none hinside hfound)
        rw [Option.toList_none, List.append_nil]
        refine ⟨(ih h hquota hle).1, (ih h hquota hle).2.trans ?_⟩
        omega
      | some n =>
        obtain ⟨hn, hnew⟩ := probe_mem hinside hfound
        have hnext := h.snoc hn hnew
        have hlen : (names ++ [n]).length = names.length + 1 := by simp
        have hroom' : (names ++ [n]).length ≤ quota := by omega
        rw [Option.toList_some]
        refine ⟨(ih hnext hroom' hnext.length_le).1, (ih hnext hroom' hnext.length_le).2.trans ?_⟩
        omega

lemma nameDraws_full (hinside : EntriesInside data count)
    (h : quota ≤ names.length ∨ ∀ n ∈ distinctNames data count, n ∈ names) :
    nameDraws env data count quota rounds hash names = names := by
  induction rounds generalizing hash with
  | zero => rfl
  | succ rounds ih =>
    simp only [nameDraws]
    split
    · rfl
    · rename_i hroom
      have hall := h.resolve_left hroom
      cases hfound : probe data count (hash.val % 2 ^ 64 % count) names with
      | none => rw [probe_eq, hfound, Option.toList_none, List.append_nil, ih]
      | some n =>
        obtain ⟨hn, hnew⟩ := probe_mem hinside hfound
        exact absurd (hall n hn) hnew

/-- **The budget is no bound.** As many rounds as names are asked for are enough: with any more the
names are the same. -/
theorem nameDraws_budget (hinside : EntriesInside data count) (h : Taken data count names)
    (hquota : names.length ≤ quota) (hrounds : quota ≤ names.length + rounds) (more : ℕ) :
    nameDraws env data count quota (rounds + more) hash names
      = nameDraws env data count quota rounds hash names := by
  induction rounds generalizing hash names with
  | zero => rw [nameDraws, nameDraws_full hinside (.inl (by omega))]
  | succ rounds ih =>
    rw [Nat.add_right_comm]
    simp only [nameDraws]
    split
    · rfl
    · rename_i hroom
      cases hfound : probe data count (hash.val % 2 ^ 64 % count) names with
      | none =>
        have hall := probe_none hinside hfound
        rw [probe_eq, hfound, Option.toList_none, List.append_nil, nameDraws_full hinside
          (.inr hall),
          nameDraws_full hinside (.inr hall)]
      | some n =>
        obtain ⟨hn, hnew⟩ := probe_mem hinside hfound
        rw [probe_eq, hfound, Option.toList_some]
        have hlen : (names ++ [n]).length = names.length + 1 := by simp
        exact ih (h.snoc hn hnew) (by omega) (by omega)

/-! ### Prescription -/

/-- The names that prescription writes when the caller passed the name registry. -/
lemma prescribeEpoch_names {index c : ℕ} {remaining : List AccountMeta} {nameRegistry : RawAccount}
    {s s' : State} {settings : EpochSettings} {epoch epoch' : Epoch}
    (h : prescribeEpoch env index remaining nameRegistry s = .ok s')
    (hset : s.epochSettings = some settings) (hepoch : s.epochs index = some epoch)
    (hepoch' : s'.epochs index = some epoch') (hpassed : epoch'.observerCount < remaining.length)
    (hc : readNameRegistryHeader nameRegistry.data = some c) :
    epoch'.prescribedNames = overwrite epoch.prescribedNames
        (nameDraws env nameRegistry.data c (min settings.prescribedNameCount (min c 2))
          (min settings.prescribedNameCount (min c 2) * 3) (rehash env epoch.hashchain) []) ∧
      epoch'.nameCount = if 0 < min settings.prescribedNameCount c then
          (nameDraws env nameRegistry.data c (min settings.prescribedNameCount (min c 2))
            (min settings.prescribedNameCount (min c 2) * 3) (rehash env epoch.hashchain) []).length
        else epoch.nameCount := by
  obtain ⟨settings, epoch, _, selected, _, drawn, hset', hepoch₁, -, -, -, -, -, -, hdrawn, rfl⟩ :=
    prescribeEpoch_ok h
  obtain rfl := Option.some.inj (hset.symm.trans hset')
  obtain rfl := Option.some.inj (hepoch.symm.trans hepoch₁)
  simp only [State.setEpoch, Function.update_self, Option.some.injEq] at hepoch'
  subst hepoch'
  obtain ⟨info, hlast⟩ : ∃ info, remaining.getLast? = some info := by
    cases hlast : remaining.getLast? with
    | none => simp [List.getLast?_eq_none_iff.mp hlast] at hpassed
    | some info => exact ⟨info, rfl⟩
  have hselected : ¬remaining.length ≤ selected.length := Nat.not_le.mpr hpassed
  simp only [selectNames, hlast, if_neg hselected, hc, bind_eq_ok, require_eq_ok,
    exists_const] at hdrawn
  obtain ⟨-, -, hdrawn⟩ := hdrawn
  split at hdrawn
  · rename_i hpos
    obtain rfl := Except.ok.inj hdrawn
    exact ⟨rfl, (if_pos (by omega)).symm⟩
  · rename_i hnone
    obtain rfl := Except.ok.inj hdrawn
    have hzero : min settings.prescribedNameCount (min c 2) = 0 := by omega
    refine ⟨?_, (if_neg (by omega)).symm⟩
    rw [hzero]
    rfl

end

/-- **Prescription fills its quota of names.** Whatever bytes the name registry has, as long as the
entries that its header counts lie inside it: the names written are different, none is empty, each
stands at an entry below the count, and there are as many as the settings, the two places, the
count and the different names allow. More rounds than the quota would write the same names. -/
theorem prescribed_names (env : Env) (index c : ℕ) (remaining : List AccountMeta)
    (nameRegistry : RawAccount) (s s' : State) (settings : EpochSettings) (epoch epoch' : Epoch)
    (h : prescribeEpoch env index remaining nameRegistry s = .ok s')
    (hset : s.epochSettings = some settings) (hepoch : s.epochs index = some epoch)
    (hepoch' : s'.epochs index = some epoch') (hpassed : epoch'.observerCount < remaining.length)
    (hc : readNameRegistryHeader nameRegistry.data = some c)
    (hinside : EntriesInside nameRegistry.data c) :
    ∃ names : List Hash,
      epoch'.prescribedNames = overwrite epoch.prescribedNames names ∧
      (epoch'.nameCount = names.length ∨ names = [] ∧ epoch'.nameCount = epoch.nameCount) ∧
      names.Nodup ∧
      (∀ n ∈ names, n ≠ 0 ∧ ∃ i < c, entryHash nameRegistry.data i = n) ∧
      names.length = min settings.prescribedNameCount
        (min 2 (min c (distinctNames nameRegistry.data c).card)) ∧
      ∀ rounds, min settings.prescribedNameCount (min c 2) ≤ rounds →
        nameDraws env nameRegistry.data c (min settings.prescribedNameCount (min c 2)) rounds
          (rehash env epoch.hashchain) [] = names := by
  obtain ⟨hnames, hcount⟩ := prescribeEpoch_names h hset hepoch hepoch' hpassed hc
  have hstart : Taken nameRegistry.data c [] := ⟨List.nodup_nil, by simp⟩
  set quota := min settings.prescribedNameCount (min c 2) with hquota
  have hbudget : ∀ rounds, quota ≤ rounds → nameDraws env nameRegistry.data c quota rounds
      (rehash env epoch.hashchain) [] = nameDraws env nameRegistry.data c quota quota
        (rehash env epoch.hashchain) [] := by
    intro rounds hrounds
    have hmore : nameDraws env nameRegistry.data c quota (quota + (rounds - quota))
        (rehash env epoch.hashchain) [] = nameDraws env nameRegistry.data c quota quota
          (rehash env epoch.hashchain) [] :=
      nameDraws_budget hinside hstart (Nat.zero_le quota) (by simp) (rounds - quota)
    rwa [Nat.add_sub_cancel' hrounds] at hmore
  rw [hbudget (quota * 3) (by omega)] at hnames hcount
  obtain ⟨htaken, hlength⟩ : Taken nameRegistry.data c (nameDraws env nameRegistry.data c quota
    quota
      (rehash env epoch.hashchain) []) ∧ _ := nameDraws_taken hinside hstart (Nat.zero_le quota)
  refine ⟨_, hnames, ?_, htaken.nodup, fun n hn => mem_distinctNames.mp (htaken.mem n hn), ?_,
    hbudget⟩
  · rcases Nat.eq_zero_or_pos (min settings.prescribedNameCount c) with hzero | hpos
    · rw [if_neg (by omega)] at hcount
      refine .inr ⟨List.eq_nil_of_length_eq_zero ?_, hcount⟩
      omega
    · rw [if_pos hpos] at hcount
      exact .inl hcount
  · rw [hlength, List.length_nil]
    omega

namespace SmallWheel

/-- The settings that the roulette runs with. -/
def params (observers names : ℕ) : InitializeEpochParams := ⟨⟨4⟩, 86400, observers, names, 10, 4⟩

/-- The epoch settings of a network with these numbers of observers and names. -/
def settings (observers names : ℕ) : Option EpochSettings :=
  (initializeEpochs env 1000 ⟨3⟩ (params observers names) SmallNetwork.start).toOption.bind
    (·.epochSettings)

/-- The gateway of an operator. -/
def gateway (operator : Pubkey) : Gateway where
  operator
  label := [97]
  fqdn := [97]
  port := 443
  protocol := .https
  properties := []
  note := []
  operatorStake := 20000000000
  totalDelegatedStake := 0
  status := .joined
  startTimestamp := 0
  leaveTimestamp := none
  leaveEpochDuration := 0
  stats := {}
  weights := {}
  settings := ⟨false, 0, 10000000, false, none, none⟩
  registryIndex := 0
  observerAddress := operator
  cumulativeRewardPerToken := 0
  version := gatewayVersion
  operationsAddress := operator

/-- An epoch whose weights are tallied. -/
def epoch (slots : ℕ) : Epoch :=
  { Epoch.zeroed with hashchain := 1723, activeGatewayCount := slots, weightsTallied := 1 }

/-- The state before the prescription of epoch 0. -/
def state (weights : List ℕ) (observers names : ℕ) : State :=
  { SmallNetwork.start with
    registry := registry weights
    epochSettings := settings observers names
    gateways := fun operator => some (gateway operator)
    epochs := Function.update SmallNetwork.start.epochs 0 (some (epoch weights.length)) }

/-- A name registry of four entries: a name, nothing, the name again, another name. -/
def nameRegistry : RawAccount where
  owner := ⟨13⟩
  data := List.replicate 40 0 ++ leBytes 8 4
    ++ ([7, 0, 7, 9].flatMap fun n => leBytes 32 n ++ leBytes 8 0)

end SmallWheel

open SmallWheel in
theorem prescribed_names_small : ∃ s' epoch' names,
    prescribeEpoch env 0 [⟨.other ⟨13⟩, false⟩] nameRegistry (state weights 0 5) = .ok s' ∧
    s'.epochs 0 = some epoch' ∧ epoch'.prescribedNames = overwrite (fun _ => 0) names ∧
    names.length = 2 := by
  have hworks := eq_ok_outcome (s := state weights 0 5) (by decide +kernel :
    (prescribeEpoch env 0 [⟨.other ⟨13⟩, false⟩] nameRegistry (state weights 0 5)).isOk = true)
  set s' := outcome (prescribeEpoch env 0 [⟨.other ⟨13⟩, false⟩] nameRegistry (state weights 0 5))
    (state weights 0 5) with hs'
  obtain ⟨settings, hset, hquota⟩ : ∃ settings, (state weights 0 5).epochSettings = some settings ∧
      settings.prescribedNameCount = 5 :=
    Option.map_eq_some_iff.mp (by decide +kernel :
      (state weights 0 5).epochSettings.map (·.prescribedNameCount) = some 5)
  obtain ⟨epoch', hepoch', hobservers⟩ : ∃ epoch', s'.epochs 0 = some epoch' ∧
      epoch'.observerCount = 0 :=
    Option.map_eq_some_iff.mp (by rw [hs']; decide +kernel :
      (s'.epochs 0).map (·.observerCount) = some 0)
  obtain ⟨names, hwritten, -, -, -, hlength, -⟩ := prescribed_names env 0 4
    [⟨.other ⟨13⟩, false⟩] nameRegistry (state weights 0 5) s' settings (epoch 4) epoch' hworks hset
    rfl hepoch' (by rw [hobservers]; decide) (by decide +kernel)
    (by unfold EntriesInside; decide +kernel)
  have hdistinct : (distinctNames nameRegistry.data 4).card = 2 := by decide +kernel
  exact ⟨s', epoch', names, hworks, hepoch', hwritten, by rw [hlength, hquota, hdistinct]; rfl⟩

end Gar
end ArioSolana
