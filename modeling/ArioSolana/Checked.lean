import Mathlib.Data.Nat.Basic
import Mathlib.Tactic.Ring
import Mathlib.Tactic.Linarith

/-!
# Fixed-width arithmetic and fallible steps

Programs compiled with overflow checks compute in machine words: an operation either returns
the mathematical value, when the word holds it, or reports that it does not, or stops at the
largest word. Amounts are natural numbers here and the width `w` is a parameter, so each
operation is the mathematical one followed by a test against `2 ^ w`.

A fallible program is a chain of steps in `Except`. The second half of the module says how a
chain that ended well is taken apart again, one step at a time.
-/

namespace ArioSolana
namespace Checked

/-! ### Words -/

/-- Addition that reports when the sum leaves a word of `w` bits. -/
def checkedAdd (w a b : ℕ) : Option ℕ := if a + b < 2 ^ w then some (a + b) else none

/-- Subtraction that reports when the difference is negative. -/
def checkedSub (a b : ℕ) : Option ℕ := if b ≤ a then some (a - b) else none

/-- Multiplication that reports when the product leaves a word of `w` bits. -/
def checkedMul (w a b : ℕ) : Option ℕ := if a * b < 2 ^ w then some (a * b) else none

/-- Division that reports a zero divisor. -/
def checkedDiv (a b : ℕ) : Option ℕ := if b = 0 then none else some (a / b)

/-- Addition that stops at the largest word. -/
def saturatingAdd (w a b : ℕ) : ℕ := min (a + b) (2 ^ w - 1)

/-- Multiplication that stops at the largest word. -/
def saturatingMul (w a b : ℕ) : ℕ := min (a * b) (2 ^ w - 1)

/-- Subtraction that stops at zero. -/
def saturatingSub (a b : ℕ) : ℕ := a - b

/-- The low `w` bits, as a narrowing cast keeps them. -/
def truncate (w a : ℕ) : ℕ := a % 2 ^ w

/-- A conversion that reports a value the narrower word does not hold. -/
def tryFrom (w a : ℕ) : Option ℕ := if a < 2 ^ w then some a else none

/-- A signed value of `w` bits. -/
def fitsSigned (w : ℕ) (a : ℤ) : Prop := -(2 : ℤ) ^ (w - 1) ≤ a ∧ a < (2 : ℤ) ^ (w - 1)

instance (w : ℕ) (a : ℤ) : Decidable (fitsSigned w a) := inferInstanceAs (Decidable (_ ∧ _))

/-- Signed addition that reports when the sum leaves the word. -/
def checkedAddSigned (w : ℕ) (a b : ℤ) : Option ℤ :=
  if fitsSigned w (a + b) then some (a + b) else none

/-- Signed subtraction that reports when the difference leaves the word. -/
def checkedSubSigned (w : ℕ) (a b : ℤ) : Option ℤ :=
  if fitsSigned w (a - b) then some (a - b) else none

/-- Signed multiplication that reports when the product leaves the word. -/
def checkedMulSigned (w : ℕ) (a b : ℤ) : Option ℤ :=
  if fitsSigned w (a * b) then some (a * b) else none

/-- Signed addition that stops at the nearest end of the word. -/
def saturatingAddSigned (w : ℕ) (a b : ℤ) : ℤ :=
  max (-(2 : ℤ) ^ (w - 1)) (min (a + b) ((2 : ℤ) ^ (w - 1) - 1))

/-- Signed subtraction that stops at the nearest end of the word. -/
def saturatingSubSigned (w : ℕ) (a b : ℤ) : ℤ :=
  max (-(2 : ℤ) ^ (w - 1)) (min (a - b) ((2 : ℤ) ^ (w - 1) - 1))

/-- Signed multiplication that stops at the nearest end of the word. -/
def saturatingMulSigned (w : ℕ) (a b : ℤ) : ℤ :=
  max (-(2 : ℤ) ^ (w - 1)) (min (a * b) ((2 : ℤ) ^ (w - 1) - 1))

section Words

variable {w a b c : ℕ} {x y z : ℤ}

@[simp] lemma checkedAdd_eq_some : checkedAdd w a b = some c ↔ a + b < 2 ^ w ∧ c = a + b := by
  unfold checkedAdd
  split <;> simp_all [eq_comm]

@[simp] lemma checkedSub_eq_some : checkedSub a b = some c ↔ b ≤ a ∧ c = a - b := by
  unfold checkedSub
  split <;> simp_all [eq_comm]

@[simp] lemma checkedMul_eq_some : checkedMul w a b = some c ↔ a * b < 2 ^ w ∧ c = a * b := by
  unfold checkedMul
  split <;> simp_all [eq_comm]

@[simp] lemma checkedDiv_eq_some : checkedDiv a b = some c ↔ b ≠ 0 ∧ c = a / b := by
  unfold checkedDiv
  split <;> simp_all [eq_comm]

@[simp] lemma tryFrom_eq_some : tryFrom w a = some c ↔ a < 2 ^ w ∧ c = a := by
  unfold tryFrom
  split <;> simp_all [eq_comm]

@[simp] lemma checkedAddSigned_eq_some :
    checkedAddSigned w x y = some z ↔ fitsSigned w (x + y) ∧ z = x + y := by
  unfold checkedAddSigned
  split <;> simp_all [eq_comm]

@[simp] lemma checkedSubSigned_eq_some :
    checkedSubSigned w x y = some z ↔ fitsSigned w (x - y) ∧ z = x - y := by
  unfold checkedSubSigned
  split <;> simp_all [eq_comm]

@[simp] lemma checkedMulSigned_eq_some :
    checkedMulSigned w x y = some z ↔ fitsSigned w (x * y) ∧ z = x * y := by
  unfold checkedMulSigned
  split <;> simp_all [eq_comm]

/-- A sum that fits is not cut. -/
lemma saturatingAdd_of_lt (h : a + b < 2 ^ w) : saturatingAdd w a b = a + b := by
  unfold saturatingAdd
  omega

/-- A product that fits is not cut. -/
lemma saturatingMul_of_lt (h : a * b < 2 ^ w) : saturatingMul w a b = a * b := by
  unfold saturatingMul
  omega

lemma saturatingAdd_le : saturatingAdd w a b ≤ a + b := min_le_left _ _

lemma saturatingAdd_lt : saturatingAdd w a b < 2 ^ w := by
  have : 0 < 2 ^ w := Nat.two_pow_pos w
  unfold saturatingAdd
  omega

lemma le_saturatingAdd (h : a < 2 ^ w) : a ≤ saturatingAdd w a b := by
  unfold saturatingAdd
  omega

lemma truncate_of_lt (h : a < 2 ^ w) : truncate w a = a := Nat.mod_eq_of_lt h

lemma truncate_le : truncate w a ≤ a := Nat.mod_le _ _

lemma truncate_lt : truncate w a < 2 ^ w := Nat.mod_lt _ (Nat.two_pow_pos w)

end Words

/-! ### Fallible steps -/

variable {ε α β : Type}

/-- Stop with the error `e` unless `p` holds. -/
def require (p : Prop) [Decidable p] (e : ε) : Except ε Unit := if p then .ok () else .error e

/-- The value of an option, or the error `e`. -/
def okOr (o : Option α) (e : ε) : Except ε α := o.elim (.error e) .ok

section Fallible

variable {p : Prop} [Decidable p] {e : ε} {o : Option α} {x : Except ε α}
  {f : α → Except ε β} {a a' : α} {b : β} {u : Unit}

-- the instance is not searched for: an implication is decidable in more than one way
@[simp] lemma require_eq_ok {p : Prop} {hp : Decidable p} : require p e = .ok u ↔ p := by
  unfold require
  split <;> simp_all

@[simp] lemma okOr_eq_ok : okOr o e = .ok a ↔ o = some a := by
  cases o <;> simp [okOr]

@[simp] lemma bind_eq_ok : (x >>= f) = .ok b ↔ ∃ a, x = .ok a ∧ f a = .ok b := by
  cases x <;> simp [bind, Except.bind]

@[simp] lemma pure_eq_ok : (pure a : Except ε α) = .ok a' ↔ a = a' := by
  simp [pure, Except.pure]

lemma require_of (h : p) : require p e = .ok () := by simp [h]

lemma okOr_some : okOr (some a) e = .ok a := rfl

lemma okOr_checkedAdd {w m n : ℕ} (h : m + n < 2 ^ w) :
    okOr (checkedAdd w m n) e = .ok (m + n) := by
  rw [checkedAdd, if_pos h, okOr_some]

@[simp] lemma ok_bind : (Except.ok a >>= f) = f a := rfl

end Fallible

/-! ### Loops over a table -/

section

variable {f : α → Except ε β} {g : α → β}

lemma list_mapM_ok {xs : List α} (h : ∀ x ∈ xs, f x = .ok (g x)) :
    xs.mapM f = .ok (xs.map g) := by
  induction xs with
  | nil => rfl
  | cons x xs ih =>
    rw [List.mapM_cons, h x List.mem_cons_self, ih fun y hy => h y (List.mem_cons_of_mem _ hy)]
    rfl

lemma vector_mapM_ok {n : ℕ} {xs : Vector α n} (h : ∀ x ∈ xs, f x = .ok (g x)) :
    xs.mapM f = .ok (xs.map g) := by
  have harray : Vector.toArray <$> xs.mapM f = .ok (xs.map g).toArray := by
    rw [Vector.toArray_mapM]
    obtain ⟨⟨l⟩, hl⟩ := xs
    rw [List.mapM_toArray, list_mapM_ok (by simpa using h)]
    simp
  cases hm : xs.mapM f with
  | error e =>
    rw [hm] at harray
    cases harray
  | ok ys =>
    rw [hm] at harray
    exact congrArg _ (Vector.toArray_inj.mp (Except.ok.inj harray))

end

end Checked
end ArioSolana
