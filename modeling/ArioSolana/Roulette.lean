import Mathlib.Data.List.Basic
import Mathlib.Data.Finset.Card
import Mathlib.Algebra.BigOperators.Group.List.Basic
import Mathlib.Algebra.Order.BigOperators.Group.List
import Mathlib.Algebra.Order.Group.Nat
import Mathlib.Algebra.BigOperators.Ring.Finset
import Mathlib.Data.Fintype.BigOperators
import Mathlib.Tactic.Linarith

/-!
# Weighted draws

A wheel has a sector for each weight of a list. A value below the sum of the weights falls into one
sector, and that has a positive weight: it is the first whose inclusive prefix sum exceeds the
value. The prefix sums do not decrease, so that a binary search finds it.
-/

namespace ArioSolana
namespace Roulette

/-! ### Binary search -/

/-- Halve the range of `size` positions from `base` on until one is left. -/
def bisect (p : ℕ → Bool) (base size : ℕ) : ℕ :=
  if 1 < size then
    bisect p (if p (base + size / 2) then base + size / 2 else base) (size - size / 2)
  else base + (p base).toNat
termination_by size

/-- The number of positions below `n` at which `p` holds, if those come first. -/
def partitionPoint (p : ℕ → Bool) (n : ℕ) : ℕ := if n = 0 then 0 else bisect p 0 n

section

variable {p : ℕ → Bool} {n k base size : ℕ}

lemma bisect_eq (h : ∀ i < n, p i = true ↔ i < k) (hlow : base ≤ k) (hhigh : k ≤ base + size)
    (hn : base + size ≤ n) (hsize : 0 < size) : bisect p base size = k := by
  fun_induction bisect p base size with
  | case1 base size hlt ih =>
    have hmid := h (base + size / 2) (by omega)
    by_cases hp : p (base + size / 2) = true
    · simp only [dif_pos hp, if_pos hp] at ih ⊢
      have := hmid.mp hp
      exact ih (by omega) (by omega) (by omega) (by omega)
    · simp only [dif_neg hp, if_neg hp] at ih ⊢
      have hle : ¬ base + size / 2 < k := fun hlt => hp (hmid.mpr hlt)
      exact ih (by omega) (by omega) (by omega) (by omega)
  | case2 base size hle =>
    have hbase := h base (by omega)
    cases hp : p base with
    | true =>
      have := hbase.mp hp
      simp only [Bool.toNat_true]
      omega
    | false =>
      have hnot : ¬ base < k := fun hlt => by simp [hbase.mpr hlt] at hp
      simp only [Bool.toNat_false]
      omega

/-- **Binary search finds the border** of a property that holds on the first `k` positions. -/
theorem partitionPoint_eq (h : ∀ i < n, p i = true ↔ i < k) (hk : k ≤ n) :
    partitionPoint p n = k := by
  unfold partitionPoint
  split
  · omega
  · exact bisect_eq h (Nat.zero_le k) (by omega) (by omega) (by omega)

end

/-! ### Sectors -/

/-- The inclusive prefix sums. -/
def inclusiveSums (ws : List ℕ) : List ℕ := (List.range ws.length).map fun i =>
    (ws.take (i + 1)).sum

/-- The sector into which `v` falls, from the left: the first of positive weight at which the sum
exceeds `v`. -/
def sectorFrom (v : ℕ) : ℕ → List ℕ → Option ℕ
  | _, [] => none
  | acc, w :: ws =>
    if v < acc + w ∧ 0 < w then some 0 else (sectorFrom v (acc + w) ws).map (· + 1)

section

variable {ws : List ℕ} {v acc i : ℕ}

@[simp] lemma length_inclusiveSums : (inclusiveSums ws).length = ws.length := by
  simp [inclusiveSums]

lemma getElem?_inclusiveSums : (inclusiveSums ws)[i]? =
    if i < ws.length then some (ws.take (i + 1)).sum else none := by
  by_cases h : i < ws.length <;> simp [inclusiveSums, h]

/-- The last prefix sum is the sum. -/
lemma getLastD_inclusiveSums : (inclusiveSums ws).getLastD 0 = ws.sum := by
  rw [List.getLastD_eq_getLast?, List.getLast?_eq_getElem?, getElem?_inclusiveSums,
    length_inclusiveSums]
  cases ws with
  | nil => rfl
  | cons w ws => simp

/-- One more weight adds one more sum. -/
lemma inclusiveSums_snoc (w : ℕ) :
    inclusiveSums (ws ++ [w]) = inclusiveSums ws ++ [ws.sum + w] := by
  simp only [inclusiveSums, List.length_append, List.length_singleton, List.range_succ,
    List.map_append, List.map_cons, List.map_nil]
  congr 1
  · refine List.map_congr_left fun i hi => ?_
    have hlt := List.mem_range.mp hi
    rw [List.take_append_of_le_length (by omega)]
  · rw [List.take_of_length_le (by simp), List.sum_append, List.sum_singleton]

lemma sum_take_le {j : ℕ} (h : i ≤ j) : (ws.take i).sum ≤ (ws.take j).sum := by
  have hsub : (ws.take i).Sublist (ws.take j) := List.take_sublist_take_left h
  exact hsub.sum_le_sum fun _ _ => Nat.zero_le _

/-- A sector that the walk finds is the first whose sum exceeds the value, and it has a weight. -/
lemma sectorFrom_eq_some (hacc : acc ≤ v) : sectorFrom v acc ws = some i ↔
    i < ws.length ∧ acc + (ws.take i).sum ≤ v ∧ v < acc + (ws.take (i + 1)).sum := by
  induction ws generalizing acc i with
  | nil => simp [sectorFrom]
  | cons w ws ih =>
    rw [sectorFrom]
    by_cases hhit : v < acc + w ∧ 0 < w
    · rw [if_pos hhit]
      cases i with
      | zero => simp [hacc, hhit.1]
      | succ i =>
        have hlt := hhit.1
        simp only [List.take_succ_cons, List.sum_cons, List.length_cons]
        constructor
        · intro h
          cases h
        · rintro ⟨-, hle, -⟩
          omega
    · have hle : acc + w ≤ v := by
        rcases Nat.eq_zero_or_pos w with rfl | hw
        · simpa using hacc
        · by_contra hlt
          exact hhit ⟨by omega, hw⟩
      rw [if_neg hhit]
      cases i with
      | zero =>
        simp only [Option.map_eq_some_iff, List.take_zero, List.sum_nil, List.take_succ_cons,
          List.sum_cons]
        constructor
        · rintro ⟨j, -, hj⟩
          cases hj
        · rintro ⟨-, -, hlt⟩
          omega
      | succ i =>
        have hstep : (sectorFrom v (acc + w) ws).map (· + 1) = some (i + 1) ↔
            sectorFrom v (acc + w) ws = some i := by
          simp [Option.map_eq_some_iff]
        rw [hstep, ih hle]
        simp only [List.take_succ_cons, List.sum_cons, List.length_cons, Nat.add_assoc,
          Nat.add_lt_add_iff_right]

/-- A value below the sum falls into a sector. -/
lemma exists_sector (h : acc + ws.sum > v) (hacc : acc ≤ v) :
    ∃ i, sectorFrom v acc ws = some i := by
  induction ws generalizing acc with
  | nil =>
    simp only [List.sum_nil] at h
    omega
  | cons w ws ih =>
    rw [sectorFrom]
    by_cases hhit : v < acc + w ∧ 0 < w
    · exact ⟨0, if_pos hhit⟩
    · rw [if_neg hhit]
      rw [List.sum_cons] at h
      have hle : acc + w ≤ v := by
        rcases Nat.eq_zero_or_pos w with rfl | hw
        · simpa using hacc
        · by_contra hlt
          exact hhit ⟨by omega, hw⟩
      obtain ⟨i, hi⟩ := ih (by omega) hle
      exact ⟨i + 1, by rw [hi, Option.map_some]⟩

/-- A sector has a positive weight. -/
lemma sector_pos (h : sectorFrom v 0 ws = some i) : 0 < ws.getD i 0 := by
  obtain ⟨hi, hle, hlt⟩ := (sectorFrom_eq_some (Nat.zero_le v)).mp h
  rw [List.sum_take_succ ws i hi] at hlt
  rw [List.getD_eq_getElem?_getD, List.getElem?_eq_getElem hi, Option.getD_some]
  omega

/-- **Binary search on the prefix sums finds the sector**, plateaus of zero weights included. -/
theorem partitionPoint_sector (h : sectorFrom v 0 ws = some i) :
    partitionPoint (fun j => (inclusiveSums ws).getD j 0 ≤ v) (inclusiveSums ws).length = i := by
  obtain ⟨hi, hle, hlt⟩ := (sectorFrom_eq_some (Nat.zero_le v)).mp h
  rw [length_inclusiveSums]
  refine partitionPoint_eq (fun j hj => ?_) hi.le
  have hget : (inclusiveSums ws).getD j 0 = (ws.take (j + 1)).sum := by
    rw [List.getD_eq_getElem?_getD, getElem?_inclusiveSums, if_pos hj, Option.getD_some]
  rw [decide_eq_true_eq, hget]
  constructor
  · intro hv
    by_contra hge
    have : (ws.take (i + 1)).sum ≤ (ws.take (j + 1)).sum :=
      sum_take_le (Nat.succ_le_succ (not_lt.mp hge))
    omega
  · intro hji
    have : (ws.take (j + 1)).sum ≤ (ws.take i).sum := sum_take_le (Nat.succ_le_of_lt hji)
    omega

/-- So does a search from the left for the first sum above the value. -/
theorem findIdx_sector (h : sectorFrom v 0 ws = some i) :
    (inclusiveSums ws).findIdx (v < ·) = i := by
  obtain ⟨hi, hle, hlt⟩ := (sectorFrom_eq_some (Nat.zero_le v)).mp h
  have hi' : i < (inclusiveSums ws).length := by simpa using hi
  refine (List.findIdx_eq hi').mpr ⟨?_, fun j hji => ?_⟩
  · simp only [inclusiveSums, List.getElem_map, List.getElem_range, decide_eq_true_eq]
    omega
  · have : (ws.take (j + 1)).sum ≤ (ws.take i).sum := sum_take_le (Nat.succ_le_of_lt hji)
    simp only [inclusiveSums, List.getElem_map, List.getElem_range, decide_eq_false_iff_not]
    omega

end

/-! ### Draws without repetition -/

section

variable {σ : Type*}

/-- At most `rounds` draws from a sequence of states, until `cap` different positions are selected.
A draw of a position that was selected before consumes a round. -/
def draws (next : σ → σ) (pick : σ → Option ℕ) (cap : ℕ) : ℕ → σ → List ℕ → List ℕ
  | 0, _, selected => selected
  | rounds + 1, x, selected =>
    if cap ≤ selected.length then selected
    else draws next pick cap rounds (next x) (match pick x with
      | some i => if i ∈ selected then selected else selected ++ [i]
      | none => selected)

/-- The same with a flag for each position in place of the search among the selected ones. -/
def flaggedDraws (next : σ → σ) (pick : σ → ℕ) (cap : ℕ) :
    ℕ → σ → (ℕ → Bool) → List ℕ → List ℕ
  | 0, _, _, selected => selected
  | rounds + 1, x, chosen, selected =>
    if cap ≤ selected.length then selected
    else if chosen (pick x) then flaggedDraws next pick cap rounds (next x) chosen selected
    else flaggedDraws next pick cap rounds (next x) (Function.update chosen (pick x) true)
      (selected ++ [pick x])

/-- What the first `rounds` draws pick. -/
def picks (next : σ → σ) (pick : σ → Option ℕ) : ℕ → σ → List ℕ
  | 0, _ => []
  | rounds + 1, x => (pick x).toList ++ picks next pick rounds (next x)

variable {next : σ → σ} {pick pick' : σ → Option ℕ} {cap rounds : ℕ} {x : σ} {selected : List ℕ}

lemma draws_congr (h : ∀ x, pick x = pick' x) :
    draws next pick cap rounds x selected = draws next pick' cap rounds x selected := by
  rw [funext h]

/-- Flags stand for membership. -/
lemma flaggedDraws_eq {pick : σ → ℕ} {chosen : ℕ → Bool}
    (h : ∀ i, chosen i = true ↔ i ∈ selected) :
    flaggedDraws next pick cap rounds x chosen selected
      = draws next (fun x => some (pick x)) cap rounds x selected := by
  induction rounds generalizing x chosen selected with
  | zero => rfl
  | succ rounds ih =>
    simp only [flaggedDraws, draws]
    by_cases hfull : cap ≤ selected.length
    · rw [if_pos hfull, if_pos hfull]
    rw [if_neg hfull, if_neg hfull]
    by_cases hmem : pick x ∈ selected
    · rw [if_pos ((h _).mpr hmem), if_pos hmem]
      exact ih h
    · rw [if_neg (fun hc => hmem ((h _).mp hc)), if_neg hmem]
      refine ih fun i => ?_
      by_cases hi : i = pick x
      · simp [hi]
      · simp [h i, hi]

/-- A draw that is added was not selected before. -/
lemma draws_nodup (h : selected.Nodup) : (draws next pick cap rounds x selected).Nodup := by
  induction rounds generalizing x selected with
  | zero => exact h
  | succ rounds ih =>
    simp only [draws]
    split
    · exact h
    · refine ih ?_
      split
      · split
        · exact h
        · rename_i i _ hmem
          exact List.nodup_append.mpr
            ⟨h, List.nodup_singleton i, fun a ha b hb hab => hmem (by simp_all)⟩
      · exact h

lemma draws_length_le (h : selected.length ≤ cap) :
    (draws next pick cap rounds x selected).length ≤ cap := by
  induction rounds generalizing x selected with
  | zero => exact h
  | succ rounds ih =>
    simp only [draws]
    split
    · exact h
    · refine ih ?_
      split
      · split
        · exact h
        · rw [List.length_append, List.length_singleton]
          omega
      · exact h

/-- What is selected was picked. -/
lemma mem_draws {P : ℕ → Prop} (hpick : ∀ x i, pick x = some i → P i) (h : ∀ i ∈ selected, P i) :
    ∀ i ∈ draws next pick cap rounds x selected, P i := by
  induction rounds generalizing x selected with
  | zero => exact h
  | succ rounds ih =>
    simp only [draws]
    split
    · exact h
    · refine ih fun i hi => ?_
      split at hi
      · rename_i j hj
        split at hi
        · exact h i hi
        · rcases List.mem_append.mp hi with hi | hi
          · exact h i hi
          · exact List.mem_singleton.mp hi ▸ hpick x j hj
      · exact h i hi

/-- **How many are selected**: as many as there are different picks, up to `cap`. -/
theorem draws_length (h : selected.Nodup) (hcap : selected.length ≤ cap) :
    (draws next pick cap rounds x selected).length
      = min cap (selected ++ picks next pick rounds x).toFinset.card := by
  induction rounds generalizing x selected with
  | zero =>
    rw [draws, picks, List.append_nil, List.toFinset_card_of_nodup h, min_eq_right hcap]
  | succ rounds ih =>
    simp only [draws]
    split
    · rename_i hfull
      have hcard : selected.length ≤ (selected ++ picks next pick (rounds + 1)
          x).toFinset.card := by
        rw [← List.toFinset_card_of_nodup h]
        exact Finset.card_le_card fun i hi => by simp_all
      omega
    · rename_i hroom
      cases hpick : pick x with
      | none =>
        simp only [picks, hpick, Option.toList_none, List.nil_append]
        exact ih h hcap
      | some i =>
        simp only [picks, hpick, Option.toList_some]
        by_cases hmem : i ∈ selected
        · rw [if_pos hmem, ih h hcap]
          have hsame : (selected ++ ([i] ++ picks next pick rounds (next x))).toFinset
              = (selected ++ picks next pick rounds (next x)).toFinset := by
            ext j
            simp only [List.toFinset_append, Finset.mem_union, List.mem_toFinset,
              List.mem_singleton]
            constructor
            · rintro (hj | rfl | hj)
              · exact .inl hj
              · exact .inl hmem
              · exact .inr hj
            · rintro (hj | hj)
              · exact .inl hj
              · exact .inr (.inr hj)
          rw [hsame]
        · rw [if_neg hmem]
          have hnodup : (selected ++ [i]).Nodup := List.nodup_append.mpr
            ⟨h, List.nodup_singleton i, fun a ha b hb hab => hmem (by simp_all)⟩
          have hlength : (selected ++ [i]).length ≤ cap := by
            rw [List.length_append, List.length_singleton]
            omega
          rw [ih hnodup hlength, List.append_assoc]

end

end Roulette
end ArioSolana
