import Mathlib.Data.List.Nodup
import Mathlib.Data.Set.Function

/-!
# Hash chains

A sequence of inputs, latest first, each hashed in turn. An input either starts afresh or contains
the digest of the input before it. If the hash function does not collide on them, the inputs are
pairwise distinct as soon as those that start afresh are.
-/

namespace ArioSolana
namespace HashChain

variable {α δ : Type*} {hash : α → δ} {fresh : α → Prop} {link : δ → α → Prop} {l : List α}

/-- Inputs, latest first; `link d i` says that the input `i` contains the digest `d`. -/
inductive Chain (hash : α → δ) (fresh : α → Prop) (link : δ → α → Prop) : List α → Prop
  | nil : Chain hash fresh link []
  | start {i l} (earlier : Chain hash fresh link l) (first : fresh i) : Chain hash fresh link
      (i :: l)
  | next {i p l} (earlier : Chain hash fresh link (p :: l)) (linked : link (hash p) i) :
      Chain hash fresh link (i :: p :: l)

/-- Which inputs start afresh and which digest an input contains can be read off the input. -/
structure Readable (fresh : α → Prop) (link : δ → α → Prop) : Prop where
  not_fresh : ∀ d i, link d i → ¬ fresh i
  unique : ∀ d d' i, link d i → link d' i → d = d'

/-- A linked input of a chain comes right after an input with the digest it contains. -/
lemma Chain.predecessor (read : Readable fresh link) (chain : Chain hash fresh link l) {d : δ}
    {i : α} (hlink : link d i) (hi : i ∈ l) : ∃ q, hash q = d ∧ [i, q].Sublist l := by
  induction chain with
  | nil => simp at hi
  | @start j l earlier first ih =>
    rcases List.mem_cons.mp hi with rfl | hi
    · exact absurd first (read.not_fresh d i hlink)
    · obtain ⟨q, hq, hsub⟩ := ih hi
      exact ⟨q, hq, hsub.cons j⟩
  | @next j p l earlier linked ih =>
    rcases List.mem_cons.mp hi with rfl | hi
    · refine ⟨p, read.unique _ _ _ linked hlink, ?_⟩
      exact (List.singleton_sublist.mpr List.mem_cons_self).cons_cons i
    · obtain ⟨q, hq, hsub⟩ := ih hi
      exact ⟨q, hq, hsub.cons j⟩

/-- **Distinct starts make distinct chains.** -/
theorem Chain.nodup_iff [DecidablePred fresh] (read : Readable fresh link)
    (chain : Chain hash fresh link l) (inj : Set.InjOn hash {i | i ∈ l}) :
    l.Nodup ↔ (l.filter fun i => fresh i).Nodup := by
  refine ⟨fun h => h.filter _, fun h => ?_⟩
  induction chain with
  | nil => exact List.nodup_nil
  | @start i l earlier first ih =>
    rw [List.filter_cons_of_pos (by simpa using first), List.nodup_cons] at h
    refine List.nodup_cons.mpr ⟨fun hi => h.1 ?_, ?_⟩
    · exact List.mem_filter.mpr ⟨hi, by simpa using first⟩
    · exact ih (inj.mono fun x hx => List.mem_cons_of_mem i hx) h.2
  | @next i p l earlier linked ih =>
    have hi := read.not_fresh _ _ linked
    rw [List.filter_cons_of_neg (by simpa using hi)] at h
    have hnodup := ih (inj.mono fun x hx => List.mem_cons_of_mem i hx) h
    refine List.nodup_cons.mpr ⟨fun hmem => ?_, hnodup⟩
    -- an earlier copy of `i` would be followed by another copy of `p`
    obtain ⟨q, hq, hsub⟩ := earlier.predecessor read linked hmem
    have hqmem : q ∈ p :: l := hsub.subset (by simp)
    obtain rfl := inj (List.mem_cons_of_mem i hqmem) (List.mem_cons_of_mem i List.mem_cons_self) hq
    have hql : q ∉ l := (List.nodup_cons.mp hnodup).1
    rcases List.cons_sublist_cons'.mp hsub with hsub | ⟨-, hsub⟩
    · exact hql (hsub.subset (by simp))
    · exact hql (hsub.subset (by simp))

end HashChain
end ArioSolana
