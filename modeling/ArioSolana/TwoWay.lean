import Mathlib.Data.PEquiv
import Mathlib.Logic.Function.Basic

/-!
# Two-way tables

A table that is read in both directions is a partial bijection. Such a table changes by connecting a
key and a value that are free, or that are connected already, and by taking a connection out again.
-/

namespace ArioSolana
namespace TwoWay

variable {α β : Type*} [DecidableEq α] [DecidableEq β] {f g : α ≃. β} {a a' : α} {b b' : β}

/-- Connect `a` and `b`, neither of which has another partner. -/
def link (f : α ≃. β) (a : α) (b : β) (free : ∀ b' ∈ f a, b' = b)
    (free' : ∀ a' ∈ f.symm b, a' = a) : α ≃. β where
  toFun := Function.update f a (some b)
  invFun := Function.update f.symm b (some a)
  inv x y := by
    by_cases hx : x = a
    · subst hx
      by_cases hy : y = b
      · simp [hy]
      · rw [Function.update_of_ne hy, Function.update_self]
        constructor
        · intro h
          exact absurd (free y ((f.mem_iff_mem).mp h)) hy
        · intro h
          exact absurd (Option.some.inj h).symm hy
    · rw [Function.update_of_ne hx]
      by_cases hy : y = b
      · subst hy
        rw [Function.update_self]
        constructor
        · intro h
          exact absurd (Option.some.inj h).symm hx
        · intro h
          exact absurd (free' x ((f.mem_iff_mem).mpr h)) hx
      · rw [Function.update_of_ne hy]
        exact f.mem_iff_mem

/-- Take the connection of `a` and `b` out. -/
def unlink (f : α ≃. β) (a : α) (b : β) (linked : b ∈ f a) : α ≃. β where
  toFun := Function.update f a none
  invFun := Function.update f.symm b none
  inv x y := by
    by_cases hx : x = a
    · subst hx
      by_cases hy : y = b
      · simp [hy]
      · rw [Function.update_of_ne hy, Function.update_self]
        constructor
        · intro h
          exact absurd (Option.mem_unique ((f.mem_iff_mem).mp h) linked) hy
        · intro h
          cases h
    · rw [Function.update_of_ne hx]
      by_cases hy : y = b
      · subst hy
        rw [Function.update_self]
        constructor
        · intro h
          cases h
        · intro h
          exact absurd (f.inj h linked) hx
      · rw [Function.update_of_ne hy]
        exact f.mem_iff_mem

variable {free : ∀ b' ∈ f a, b' = b} {free' : ∀ a' ∈ f.symm b, a' = a} {linked : b ∈ f a}

@[simp] lemma link_apply (x : α) :
    link f a b free free' x = if x = a then some b else f x := by
  change Function.update f a (some b) x = _
  rw [Function.update_apply]

@[simp] lemma unlink_apply (x : α) : unlink f a b linked x = if x = a then none else f x := by
  change Function.update f a none x = _
  rw [Function.update_apply]

end TwoWay
end ArioSolana
