import Mathlib.Data.List.GetD
import Mathlib.Data.List.TakeWhile
import Mathlib.Data.Nat.Digits.Lemmas

/-!
# Base 58

Bytes as text in base 58: one sign for each zero byte in front, and then the digits of the number
that the bytes stand for, most significant first. Different bytes have different texts, zeros in
front included.
-/

namespace ArioSolana
namespace Base58

/-- The digits and letters without `0`, `I`, `O` and `l`. -/
def alphabet : List UInt8 :=
  "123456789ABCDEFGHJKLMNPQRSTUVWXYZabcdefghijkmnopqrstuvwxyz".toList.map fun c => UInt8.ofNat
    c.toNat

def digit (i : ℕ) : UInt8 := alphabet.getD i 0

/-- The number that bytes stand for, most significant first. -/
def number (bytes : List UInt8) : ℕ := Nat.ofDigits 256 (bytes.reverse.map UInt8.toNat)

/-- The zero bytes in front. -/
def zeros (bytes : List UInt8) : ℕ := (bytes.takeWhile (· = 0)).length

def encode (bytes : List UInt8) : List UInt8 :=
  List.replicate (zeros bytes) (digit 0) ++ ((Nat.digits 58 (number bytes)).reverse.map digit)

variable {bytes bytes' : List UInt8} {z z' n m : ℕ}

/-! ### Digits -/

lemma idxOf_digit {i : ℕ} (h : i < 58) : alphabet.idxOf (digit i) = i := by
  have hall : ∀ i : Fin 58, alphabet.idxOf (digit i) = i := by decide +kernel
  exact hall ⟨i, h⟩

lemma digit_ne_newline (i : ℕ) : digit i ≠ 10 := by
  by_cases h : i < 58
  · have hall : ∀ i : Fin 58, digit i ≠ 10 := by decide +kernel
    exact hall ⟨i, h⟩
  · have hlen : alphabet.length = 58 := by decide +kernel
    rw [digit, List.getD_eq_default _ _ (by omega)]
    decide

/-- The text of a number determines the number. -/
lemma digits_inj (h : (Nat.digits 58 n).reverse.map digit = (Nat.digits 58 m).reverse.map digit) :
    n = m := by
  have hback : ∀ n, ((Nat.digits 58 n).reverse.map digit).map alphabet.idxOf
      = (Nat.digits 58 n).reverse := by
    intro n
    rw [List.map_map]
    refine (List.map_congr_left fun i hi => ?_).trans (List.map_id _)
    exact idxOf_digit (Nat.digits_lt_base (by norm_num) (List.mem_reverse.mp hi))
  have hrev : (Nat.digits 58 n).reverse = (Nat.digits 58 m).reverse := by
    rw [← hback n, h, hback m]
  exact Nat.digits.injective 58 (List.reverse_injective hrev)

/-- No number starts with the sign for zero. -/
lemma head_digits (n : ℕ) : ∀ c ∈ ((Nat.digits 58 n).reverse.map digit).head?, c ≠ digit 0 := by
  intro c hc heq
  rw [List.head?_map, List.head?_reverse] at hc
  obtain ⟨i, hi, rfl⟩ := Option.mem_map.mp hc
  have hne : Nat.digits 58 n ≠ [] := by
    intro hnil
    rw [hnil] at hi
    cases hi
  rw [List.getLast?_eq_getLast_of_ne_nil hne] at hi
  obtain rfl := Option.mem_some_iff.mp hi
  have hn : n ≠ 0 := Nat.digits_ne_nil_iff_ne_zero.mp hne
  have hlt := Nat.digits_lt_base (b := 58) (by norm_num) (List.getLast_mem hne)
  have hzero := congrArg alphabet.idxOf heq
  rw [idxOf_digit hlt, idxOf_digit (by norm_num)] at hzero
  exact Nat.getLast_digit_ne_zero 58 hn hzero

/-! ### Zeros in front -/

/-- Copies of a sign in front of a text that does not start with it can be counted. -/
lemma replicate_append_inj {α : Type*} {a : α} {l l' : List α} (h : ∀ c ∈ l.head?, c ≠ a)
    (h' : ∀ c ∈ l'.head?, c ≠ a) (heq : List.replicate z a ++ l = List.replicate z' a ++ l') :
    z = z' ∧ l = l' := by
  induction z generalizing z' with
  | zero =>
    cases z' with
    | zero => exact ⟨rfl, by simpa using heq⟩
    | succ z' =>
      obtain rfl : l = a :: (List.replicate z' a ++ l') := by simpa [List.replicate_succ] using heq
      exact absurd rfl (h a rfl)
  | succ z ih =>
    cases z' with
    | zero =>
      obtain rfl : l' = a :: (List.replicate z a ++ l) := by
        simpa [List.replicate_succ] using heq.symm
      exact absurd rfl (h' a rfl)
    | succ z' =>
      simp only [List.replicate_succ, List.cons_append, List.cons.injEq, true_and] at heq
      obtain ⟨rfl, rfl⟩ := ih heq
      exact ⟨rfl, rfl⟩

/-- Bytes are their zeros in front and a rest that starts with another byte. -/
lemma split_zeros (bytes : List UInt8) : ∃ rest, bytes = List.replicate (zeros bytes) 0 ++ rest ∧
    (∀ c ∈ rest.head?, c ≠ 0) := by
  refine ⟨bytes.dropWhile (· = 0), ?_, fun c hc => ?_⟩
  · have hzeros : bytes.takeWhile (· = 0) = List.replicate (zeros bytes) 0 :=
      List.eq_replicate_iff.mpr ⟨rfl, fun c hc => by simpa using List.mem_takeWhile_imp hc⟩
    rw [← hzeros, List.takeWhile_append_dropWhile]
  · have hnot := List.head?_dropWhile_not (fun b : UInt8 => decide (b = 0)) bytes
    rw [hc] at hnot
    simpa using hnot

lemma number_replicate (z : ℕ) (rest : List UInt8) :
    number (List.replicate z 0 ++ rest) = number rest := by
  rw [number, List.reverse_append, List.map_append, Nat.ofDigits_append, List.reverse_replicate,
    List.map_replicate]
  have hzero : Nat.ofDigits 256 (List.replicate z (UInt8.toNat 0)) = 0 := by
    induction z with
    | zero => rfl
    | succ z ih =>
      rw [List.replicate_succ, Nat.ofDigits_cons, ih]
      rfl
  rw [hzero, Nat.mul_zero, Nat.add_zero, number]

/-- Bytes without zeros in front are the digits of their number. -/
lemma digits_number {rest : List UInt8} (h : ∀ c ∈ rest.head?, c ≠ 0) :
    Nat.digits 256 (number rest) = rest.reverse.map UInt8.toNat := by
  refine Nat.digits_ofDigits 256 (by norm_num) _ (fun d hd => ?_) fun hne => ?_
  · obtain ⟨b, -, rfl⟩ := List.mem_map.mp hd
    exact b.toNat_lt
  · intro hzero
    have hrest : rest ≠ [] := by
      rintro rfl
      exact hne rfl
    obtain ⟨b, rest', rfl⟩ := List.exists_cons_of_ne_nil hrest
    simp only [List.reverse_cons, List.map_append, List.map_cons, List.map_nil,
      List.getLast_append_singleton] at hzero
    exact h b rfl (UInt8.toNat_inj.mp hzero)

/-- **Different bytes have different texts.** -/
theorem encode_injective : Function.Injective encode := by
  intro bytes bytes' heq
  obtain ⟨hzeros, hdigits⟩ := replicate_append_inj (head_digits _) (head_digits _) heq
  have hnumber := digits_inj hdigits
  obtain ⟨rest, hsplit, hhead⟩ := split_zeros bytes
  obtain ⟨rest', hsplit', hhead'⟩ := split_zeros bytes'
  rw [hsplit, hsplit', number_replicate, number_replicate] at hnumber
  have hrev : rest.reverse.map UInt8.toNat = rest'.reverse.map UInt8.toNat := by
    rw [← digits_number hhead, hnumber, digits_number hhead']
  have hrest : rest = rest' :=
    List.reverse_injective (List.map_injective_iff.mpr (fun a b => UInt8.toNat_inj.mp) hrev)
  rw [hsplit, hsplit', hzeros, hrest]

/-- The text is a single line. -/
theorem newline_notMem_encode (bytes : List UInt8) : 10 ∉ encode bytes := by
  intro h
  rcases List.mem_append.mp h with h | h
  · exact digit_ne_newline 0 (List.eq_of_mem_replicate h).symm
  · obtain ⟨i, -, hi⟩ := List.mem_map.mp h
    exact digit_ne_newline i hi

end Base58
end ArioSolana
