import Mathlib.Tactic.Ring
import Mathlib.Data.List.Basic
import ArioSolana.Checked

/-!
# Borsh

Borsh writes a record as the bytes of its fields, one after the other: a number with its least
significant byte first, a string behind its length, an option behind a byte that says whether it is
there. A program that reads such bytes by hand takes slices of a buffer. A slice that leaves the
buffer, like an index that does, stops the program, which is not the same as an error that the
program returns.
-/

namespace ArioSolana
namespace Borsh

open Checked

/-! ### Numbers -/

/-- The lowest `k` bytes of a number, least significant byte first. -/
def leBytes (k n : ℕ) : List UInt8 := (List.range k).map fun i => UInt8.ofNat (n / 256 ^ i % 256)

/-- The number that the bytes stand for. -/
def ofLeBytes : List UInt8 → ℕ
  | [] => 0
  | b :: bs => b.toNat + 256 * ofLeBytes bs

/-- A word of 64 bits as a signed number. -/
def signed64 (n : ℕ) : ℤ := if n < 2 ^ 63 then n else (n : ℤ) - 2 ^ 64

/-- A signed number as a word of 64 bits. -/
def word64 (z : ℤ) : ℕ := (z % 2 ^ 64).toNat

@[simp] lemma leBytes_length (k n : ℕ) : (leBytes k n).length = k := by simp [leBytes]

@[simp] lemma leBytes_zero (n : ℕ) : leBytes 0 n = [] := rfl

lemma leBytes_succ (k n : ℕ) : leBytes (k + 1) n = UInt8.ofNat (n % 256) :: leBytes k
    (n / 256) := by
  simp only [leBytes, List.range_succ_eq_map, List.map_cons, pow_zero, Nat.div_one, List.map_map,
    List.cons.injEq, true_and]
  refine List.map_congr_left fun i _ => ?_
  simp only [Function.comp_apply, Nat.succ_eq_add_one]
  rw [pow_succ', Nat.div_div_eq_div_mul]

lemma ofLeBytes_leBytes {k n : ℕ} (h : n < 256 ^ k) : ofLeBytes (leBytes k n) = n := by
  induction k generalizing n with
  | zero =>
    have : n = 0 := by simpa using h
    simp [ofLeBytes, this]
  | succ k ih =>
    have hdiv : n / 256 < 256 ^ k := by
      rw [pow_succ] at h
      exact Nat.div_lt_of_lt_mul (by omega)
    rw [leBytes_succ, ofLeBytes, ih hdiv, UInt8.toNat_ofNat']
    omega

lemma leBytes_inj {k m n : ℕ} (hm : m < 256 ^ k) (hn : n < 256 ^ k)
    (h : leBytes k m = leBytes k n) : m = n := by
  rw [← ofLeBytes_leBytes hm, h, ofLeBytes_leBytes hn]

lemma word64_lt (z : ℤ) : word64 z < 256 ^ 8 := by
  unfold word64
  omega

lemma signed64_word64 {z : ℤ} (h : fitsSigned 64 z) : signed64 (word64 z) = z := by
  obtain ⟨hlow, hhigh⟩ := h
  norm_num at hlow hhigh
  unfold signed64 word64
  split <;> omega

/-! ### Encoders -/

/-- A string, or any run of bytes, behind its length. -/
def encodeString (s : List UInt8) : List UInt8 := leBytes 4 s.length ++ s

/-- Values behind their number. -/
def encodeVec {α : Type*} (encode : α → List UInt8) (xs : List α) : List UInt8 :=
  leBytes 4 xs.length ++ xs.flatMap encode

/-- A value that may be missing. -/
def encodeOption {α : Type*} (encode : α → List UInt8) : Option α → List UInt8
  | none => [0]
  | some x => 1 :: encode x

@[simp] lemma encodeString_length (s : List UInt8) : (encodeString s).length = 4 + s.length := by
  simp [encodeString]

lemma flatMap_encodeString_length_le {strs : List (List UInt8)} {b : ℕ}
    (h : ∀ s ∈ strs, s.length ≤ b) :
    (strs.flatMap encodeString).length ≤ strs.length * (4 + b) := by
  induction strs with
  | nil => simp
  | cons s strs ih =>
    have hs := h s List.mem_cons_self
    have htail := ih fun x hx => h x (List.mem_cons_of_mem s hx)
    rw [List.flatMap_cons, List.length_append, encodeString_length, List.length_cons, Nat.succ_mul]
    omega

/-! ### Reading a buffer -/

/-- How a reader can fail: it returns an error, or it stops the program. -/
inductive Fault (ε : Type) where
  | error (e : ε)
  | panic
deriving DecidableEq

variable {ε α β : Type} {data front bytes rest : List UInt8} {a b n : ℕ}

/-- `data[a..b]`. -/
def slice (data : List UInt8) (a b : ℕ) : Except (Fault ε) (List UInt8) :=
  if a ≤ b ∧ b ≤ data.length then .ok ((data.drop a).take (b - a)) else .error .panic

/-- `data[i]`. -/
def index (data : List UInt8) (i : ℕ) : Except (Fault ε) UInt8 :=
  if i < data.length then .ok (data.getD i 0) else .error .panic

/-- The number in `data[a..b]`. -/
def readLe (data : List UInt8) (a b : ℕ) : Except (Fault ε) ℕ := do
  let bytes ← slice data a b
  return ofLeBytes bytes

@[simp] lemma slice_eq_ok {s : List UInt8} : slice (ε := ε) data a b = .ok s ↔
    (a ≤ b ∧ b ≤ data.length) ∧ s = (data.drop a).take (b - a) := by
  unfold slice
  split <;> simp_all [eq_comm]

@[simp] lemma index_eq_ok {i : ℕ} {x : UInt8} : index (ε := ε) data i = .ok x ↔
    i < data.length ∧ x = data.getD i 0 := by
  unfold index
  split <;> simp_all [eq_comm]

lemma index_of_lt {i : ℕ} (h : i < data.length) : index (ε := ε) data i = .ok (data.getD i 0) :=
  index_eq_ok.mpr ⟨h, rfl⟩

lemma slice_of_le (h : a + n ≤ data.length) :
    slice (ε := ε) data a (a + n) = .ok ((data.drop a).take n) := by
  rw [slice, if_pos ⟨Nat.le_add_right .., h⟩, Nat.add_sub_cancel_left]

/-- The slice of a part of the buffer. -/
lemma slice_part (h : data = front ++ (bytes ++ rest)) (ha : a = front.length)
    (hb : b = a + bytes.length) : slice (ε := ε) data a b = .ok bytes := by
  subst h ha hb
  refine slice_eq_ok.mpr ⟨⟨by omega, by simp⟩, ?_⟩
  rw [List.drop_left, Nat.add_sub_cancel_left, List.take_left]

lemma readLe_part {k : ℕ} (h : data = front ++ (leBytes k n ++ rest)) (ha : a = front.length)
    (hb : b = a + k) (hn : n < 256 ^ k) : readLe (ε := ε) data a b = .ok n := by
  rw [readLe, slice_part h ha (by rw [hb, leBytes_length])]
  exact congrArg Except.ok (ofLeBytes_leBytes hn)

lemma index_part {x : UInt8} (h : data = front ++ (x :: rest)) (ha : a = front.length) :
    index (ε := ε) data a = .ok x := by
  subst h ha
  refine index_eq_ok.mpr ⟨by simp, ?_⟩
  simp [List.getD]

/-! ### Readers that do not stop the program -/

/-- The reader returns a value or an error. -/
def Safe (x : Except (Fault ε) α) : Prop := x ≠ .error .panic

lemma Safe.ok (a : α) : Safe (.ok a : Except (Fault ε) α) := by simp [Safe]

lemma Safe.bind {x : Except (Fault ε) α} {f : α → Except (Fault ε) β} (hx : Safe x)
    (hf : ∀ a, x = .ok a → Safe (f a)) : Safe (x >>= f) := by
  cases x with
  | ok a => exact hf a rfl
  | error e =>
    intro h
    exact hx (congrArg Except.error (Except.error.inj h))

lemma Safe.require {c : Prop} [Decidable c] (e : ε) : Safe (require c (Fault.error e)) := by
  unfold Safe Checked.require
  split <;> simp

lemma Safe.okOr (o : Option α) (e : ε) : Safe (okOr o (Fault.error e)) := by
  unfold Safe Checked.okOr
  cases o <;> simp

lemma Safe.slice (hab : a ≤ b) (hb : b ≤ data.length) : Safe (Borsh.slice (ε := ε) data a b) := by
  unfold Safe Borsh.slice
  rw [if_pos ⟨hab, hb⟩]
  simp

lemma Safe.index (ha : a < data.length) : Safe (Borsh.index (ε := ε) data a) := by
  unfold Safe Borsh.index
  rw [if_pos ha]
  simp

lemma Safe.readLe (hab : a ≤ b) (hb : b ≤ data.length) : Safe (Borsh.readLe (ε := ε) data a b) :=
  (Safe.slice hab hb).bind fun _ _ => Safe.ok _

end Borsh
end ArioSolana
