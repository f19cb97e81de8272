import ArioSolana.BorshCodec

/-!
# Walks

A walk goes over a value in a buffer without building it: from a position it gets to the position
behind the value, or fails. Programs that are short of memory check a buffer this way. A walk does
the work of a codec when it goes over exactly the texts that the codec writes, and walks are put
together as codecs are. -/

namespace ArioSolana
namespace Borsh

open Checked

/-- From a position in a buffer to a later one. -/
abbrev Walk (ε : Type) : Type := List UInt8 → ℕ → Except ε ℕ

section

variable {ε α β : Type} {e : ε} {walk walk' : Walk ε} {V W : α → Prop} {V' : β → Prop}
  {encode : α → List UInt8} {encode' : β → List UInt8} {data : List UInt8} {i j k n limit : ℕ}

/-- The walk goes over the texts of the values in `V`, and over nothing else. -/
def Walks (walk : Walk ε) (V : α → Prop) (encode : α → List UInt8) : Prop :=
  ∀ data i j, i ≤ data.length → (walk data i = .ok j ↔ ∃ front a rest,
    data = front ++ (encode a ++ rest) ∧ front.length = i ∧ V a ∧ j = i + (encode a).length)

lemma Walks.congr (h : Walks walk V encode) (hV : ∀ a, V a ↔ W a) : Walks walk W encode := by
  intro data i j hi
  simp only [h data i j hi, hV]

lemma Walks.record (h : Walks walk V encode) (into : α → β) (of : β → α)
    (hof : ∀ a, of (into a) = a) :
    Walks walk (fun b => V (of b)) (fun b => encode (of b)) := by
  intro data i j hi
  rw [h data i j hi]
  constructor
  · rintro ⟨front, a, rest, hdata, hfront, ha, hj⟩
    refine ⟨front, into a, rest, ?_⟩
    simp only [hof]
    exact ⟨hdata, hfront, ha, hj⟩
  · rintro ⟨front, b, rest, h⟩
    exact ⟨front, of b, rest, h⟩

/-! ### Fixed lengths -/

/-- Over `k` bytes. -/
def walkBytes (e : ε) (k : ℕ) : Walk ε := fun data i => do
  require (i + k ≤ data.length) e
  return i + k

@[simp] lemma walkBytes_eq_ok : walkBytes e k data i = .ok j ↔ i + k ≤ data.length ∧ j = i + k := by
  simp only [walkBytes, bind_eq_ok, require_eq_ok, exists_const, pure_eq_ok]
  exact and_congr_right fun _ => eq_comm

lemma walks_bytes (hlen : ∀ a, V a → (encode a).length = k)
    (hall : ∀ l : List UInt8, l.length = k → ∃ a, V a ∧ encode a = l) :
    Walks (walkBytes e k) V encode := by
  intro data i j hi
  rw [walkBytes_eq_ok]
  constructor
  · rintro ⟨hle, rfl⟩
    have hpart : ((data.drop i).take k).length = k := by
      rw [List.length_take, List.length_drop]
      omega
    obtain ⟨a, ha, henc⟩ := hall _ hpart
    refine ⟨data.take i, a, (data.drop i).drop k, ?_, ?_, ha, ?_⟩
    · rw [henc, List.take_append_drop, List.take_append_drop]
    · rw [List.length_take, min_eq_left hi]
    · rw [henc, hpart]
  · rintro ⟨front, a, rest, rfl, rfl, ha, rfl⟩
    rw [hlen a ha, List.length_append, List.length_append, hlen a ha]
    omega

lemma walks_word (e : ε) (k : ℕ) : Walks (walkBytes e k) (fun n => n < 256 ^ k) (leBytes k) := by
  refine walks_bytes (fun n _ => leBytes_length k n) fun l hl => ⟨ofLeBytes l, ?_, ?_⟩
  · rw [← hl]
    exact ofLeBytes_lt l
  · rw [← hl]
    exact leBytes_ofLeBytes l

lemma walks_raw (e : ε) (k : ℕ) :
    Walks (walkBytes e k) (fun _ => True) fun v : Vector UInt8 k => v.toList := by
  refine walks_bytes (fun v _ => v.length_toList) fun l hl => ?_
  subst hl
  exact ⟨⟨l.toArray, List.size_toArray⟩, trivial, rfl⟩

lemma walks_rows (h : Walks (walkBytes e k) V encode) (hlen : ∀ a, V a → (encode a).length = k) :
    Walks (walkBytes e (n * k)) (fun as : List α => as.length = n ∧ ∀ a ∈ as, V a)
      (List.flatMap encode) := by
  refine walks_bytes ?_ ?_
  · rintro as ⟨rfl, has⟩
    induction as with
    | nil => simp
    | cons a as ih =>
      obtain ⟨ha, has⟩ := List.forall_mem_cons.mp has
      rw [List.flatMap_cons, List.length_append, hlen a ha, ih has, List.length_cons]
      ring
  · induction n with
    | zero =>
      intro l hl
      rw [Nat.zero_mul] at hl
      exact ⟨[], ⟨rfl, by simp⟩, (List.length_eq_zero_iff.mp hl).symm⟩
    | succ n ih =>
      intro l hl
      rw [Nat.succ_mul] at hl
      obtain ⟨front, a, rest, rfl, hfront, ha, -⟩ :=
        (h l 0 (0 + k) (Nat.zero_le _)).mp (walkBytes_eq_ok.mpr ⟨by omega, rfl⟩)
      obtain rfl := List.length_eq_zero_iff.mp hfront
      rw [List.nil_append] at hl ⊢
      rw [List.length_append, hlen a ha] at hl
      obtain ⟨as, ⟨rfl, has⟩, hrest⟩ := ih rest (by omega)
      exact ⟨a :: as, ⟨rfl, List.forall_mem_cons.mpr ⟨ha, has⟩⟩, by rw [List.flatMap_cons, hrest]⟩

/-! ### One behind another -/

/-- One walk, then another. -/
def walkThen (walk walk' : Walk ε) : Walk ε := fun data i => do
  let i ← walk data i
  walk' data i

lemma Walks.pair (h : Walks walk V encode) (h' : Walks walk' V' encode') :
    Walks (walkThen walk walk') (fun x : α × β => V x.1 ∧ V' x.2)
      (fun x => encode x.1 ++ encode' x.2) := by
  intro data i j hi
  simp only [walkThen, bind_eq_ok]
  constructor
  · rintro ⟨m, hm, hj⟩
    obtain ⟨front, a, rest, rfl, rfl, ha, rfl⟩ := (h _ _ _ hi).mp hm
    obtain ⟨front', b, rest', hdata, hfront, hb, rfl⟩ := (h' _ _ _ (by simp)).mp hj
    rw [← List.append_assoc] at hdata
    obtain ⟨rfl, rfl⟩ := List.append_inj hdata (by rw [List.length_append, hfront])
    refine ⟨front, (a, b), rest', by simp only [List.append_assoc], rfl, ⟨ha, hb⟩, ?_⟩
    rw [List.length_append, Nat.add_assoc]
  · rintro ⟨front, ⟨a, b⟩, rest, rfl, rfl, ⟨ha, hb⟩, rfl⟩
    refine ⟨front.length + (encode a).length, (h _ _ _ hi).mpr
      ⟨front, a, encode' b ++ rest, ?_, rfl, ha, rfl⟩,
      (h' _ _ _ ?_).mpr ⟨front ++ encode a, b, rest, ?_, List.length_append, hb, ?_⟩⟩
    · simp only [List.append_assoc]
    · simp only [List.length_append]
      omega
    · simp only [List.append_assoc]
    · rw [List.length_append, Nat.add_assoc]

/-! ### Lengths in front -/

/-- The number in the next `k` bytes, and the position behind it. -/
def readWord (e : ε) (k : ℕ) (data : List UInt8) (i : ℕ) : Except ε (ℕ × ℕ) := do
  require (i + k ≤ data.length) e
  return (ofLeBytes ((data.drop i).take k), i + k)

lemma readWord_eq_ok (hi : i ≤ data.length) : readWord e k data i = .ok (n, j) ↔
    ∃ front rest, data = front ++ (leBytes k n ++ rest) ∧ front.length = i ∧ n < 256 ^ k ∧
        j = i + k := by
  simp only [readWord, bind_eq_ok, require_eq_ok, exists_const, pure_eq_ok, Prod.mk.injEq]
  constructor
  · rintro ⟨hle, rfl, rfl⟩
    have hpart : ((data.drop i).take k).length = k := by
      rw [List.length_take, List.length_drop]
      omega
    have hback := leBytes_ofLeBytes ((data.drop i).take k)
    rw [hpart] at hback
    refine ⟨data.take i, (data.drop i).drop k, ?_, ?_, ?_, rfl⟩
    · rw [hback, List.take_append_drop, List.take_append_drop]
    · rw [List.length_take, min_eq_left hi]
    · exact (ofLeBytes_lt _).trans_eq (by rw [hpart])
  · rintro ⟨front, rest, rfl, rfl, hn, rfl⟩
    refine ⟨?_, ?_, rfl⟩
    · simp only [List.length_append, leBytes_length]
      omega
    · rw [List.drop_left, List.take_left' (leBytes_length k n), ofLeBytes_leBytes hn]

/-- Over bytes behind their number. -/
def walkString (e : ε) : Walk ε := fun data i => do
  let (n, i) ← readWord e 4 data i
  require (i + n ≤ data.length) e
  return i + n

lemma walks_string (e : ε) : Walks (walkString e) (fun s => s.length < 256 ^ 4) encodeString := by
  intro data i j hi
  simp only [walkString, bind_eq_ok, Prod.exists, readWord_eq_ok hi, require_eq_ok, exists_const,
    pure_eq_ok]
  constructor
  · rintro ⟨n, _, ⟨front, rest, rfl, rfl, hn, rfl⟩, hle, rfl⟩
    simp only [List.length_append, leBytes_length] at hle
    have htake : (rest.take n).length = n := by
      rw [List.length_take]
      omega
    refine ⟨front, rest.take n, rest.drop n, ?_, rfl, htake.trans_lt hn, ?_⟩
    · rw [encodeString, htake, List.append_assoc, List.take_append_drop]
    · rw [encodeString_length, htake, Nat.add_assoc]
  · rintro ⟨front, s, rest, rfl, rfl, hs, rfl⟩
    refine ⟨s.length, _, ⟨front, s ++ rest, ?_, rfl, hs, rfl⟩, ?_, ?_⟩
    · rw [encodeString, List.append_assoc]
    · simp only [List.length_append, encodeString_length]
      omega
    · rw [encodeString_length, Nat.add_assoc]

/-- The same walk some times. -/
def walkMany (walk : Walk ε) : ℕ → Walk ε
  | 0 => fun _ i => return i
  | n + 1 => walkThen walk (walkMany walk n)

lemma Walks.many (h : Walks walk V encode) : Walks (walkMany walk n)
    (fun as : List α => as.length = n ∧ ∀ a ∈ as, V a) (List.flatMap encode) := by
  induction n with
  | zero =>
    intro data i j hi
    rw [walkMany, pure_eq_ok]
    constructor
    · rintro rfl
      refine ⟨data.take i, [], data.drop i, (List.take_append_drop i data).symm, ?_,
        ⟨rfl, by simp⟩, rfl⟩
      rw [List.length_take, min_eq_left hi]
    · rintro ⟨front, as, rest, -, -, ⟨hlen, -⟩, rfl⟩
      rw [List.length_eq_zero_iff.mp hlen]
      rfl
  | succ n ih =>
    intro data i j hi
    rw [walkMany, h.pair ih data i j hi]
    constructor
    · rintro ⟨front, ⟨a, as⟩, rest, hdata, hfront, ⟨ha, rfl, has⟩, hj⟩
      exact ⟨front, a :: as, rest, hdata, hfront, ⟨rfl, List.forall_mem_cons.mpr ⟨ha, has⟩⟩, hj⟩
    · rintro ⟨front, as, rest, hdata, hfront, ⟨hlen, has⟩, hj⟩
      obtain ⟨a, as, rfl⟩ : ∃ a as', as = a :: as' := List.exists_cons_of_length_eq_add_one hlen
      obtain ⟨ha, has⟩ := List.forall_mem_cons.mp has
      exact ⟨front, (a, as), rest, hdata, hfront, ⟨ha, by simpa using hlen, has⟩, hj⟩

/-- Over values behind their number, of which there may only be so many. -/
def walkVec (e : ε) (limit : ℕ) (walkAll : ℕ → Walk ε) : Walk ε := fun data i => do
  let (n, i) ← readWord e 4 data i
  require (n ≤ limit) e
  walkAll n data i

lemma walks_vec {walkAll : ℕ → Walk ε} (hall : ∀ n, Walks (walkAll n)
      (fun as : List α => as.length = n ∧ ∀ a ∈ as, V a) (List.flatMap encode))
        (hlimit : limit < 256 ^ 4) :
    Walks (walkVec e limit walkAll) (fun as : List α => as.length ≤ limit ∧ ∀ a ∈ as, V a)
      (encodeVec encode) := by
  intro data i j hi
  simp only [walkVec, bind_eq_ok, Prod.exists, readWord_eq_ok hi, require_eq_ok, exists_const]
  constructor
  · rintro ⟨n, _, ⟨front, rest, rfl, rfl, hn, rfl⟩, hle, hj⟩
    obtain ⟨front', as, rest', hdata, hfront, ⟨rfl, has⟩, rfl⟩ :=
      (hall n _ _ _ (by simp only [List.length_append, leBytes_length]; omega)).mp hj
    rw [← List.append_assoc] at hdata
    obtain ⟨rfl, rfl⟩ := List.append_inj hdata (by rw [List.length_append, leBytes_length, hfront])
    refine ⟨front, as, rest', ?_, rfl, ⟨hle, has⟩, ?_⟩
    · simp only [encodeVec, List.append_assoc]
    · rw [encodeVec, List.length_append, leBytes_length, Nat.add_assoc]
  · rintro ⟨front, as, rest, rfl, rfl, ⟨hle, has⟩, rfl⟩
    refine ⟨as.length, _, ⟨front, as.flatMap encode ++ rest, ?_, rfl, hle.trans_lt hlimit,
      rfl⟩, hle,
      (hall _ _ _ _ ?_).mpr ⟨front ++ leBytes 4 as.length, as, rest, ?_, ?_, ⟨rfl, has⟩, ?_⟩⟩
    · simp only [encodeVec, List.append_assoc]
    · simp only [encodeVec, List.length_append, leBytes_length]
      omega
    · simp only [encodeVec, List.append_assoc]
    · rw [List.length_append, leBytes_length]
    · rw [encodeVec, List.length_append, leBytes_length, Nat.add_assoc]

/-- Over a value that may be missing. -/
def walkOption (e : ε) (walk : Walk ε) : Walk ε := fun data i => do
  let (tag, i) ← readWord e 1 data i
  if tag = 1 then walk data i
  else do
    require (tag = 0) e
    return i

lemma Walks.option (h : Walks walk V encode) :
    Walks (walkOption e walk) (fun o : Option α => ∀ a ∈ o, V a) (encodeOption encode) := by
  have hzero : leBytes 1 0 = [0] := by decide
  have hone : leBytes 1 1 = [1] := by decide
  intro data i j hi
  simp only [walkOption, bind_eq_ok, Prod.exists, readWord_eq_ok hi]
  constructor
  · rintro ⟨tag, _, ⟨front, rest, rfl, rfl, -, rfl⟩, hj⟩
    split at hj
    · rename_i htag
      subst htag
      rw [hone] at hj ⊢
      obtain ⟨front', a, rest', hdata, hfront, ha, rfl⟩ := (h _ _ _ (by simp)).mp hj
      rw [← List.append_assoc] at hdata
      obtain ⟨rfl, rfl⟩ := List.append_inj hdata (by rw [List.length_append, hfront]; rfl)
      refine ⟨front, some a, rest', by simp [encodeOption], rfl, by simpa using ha, ?_⟩
      rw [encodeOption, List.length_cons]
      omega
    · simp only [bind_eq_ok, require_eq_ok, exists_const, pure_eq_ok] at hj
      obtain ⟨rfl, rfl⟩ := hj
      rw [hzero]
      exact ⟨front, none, rest, rfl, rfl, by simp, rfl⟩
  · rintro ⟨front, _ | a, rest, rfl, rfl, ho, rfl⟩
    · refine ⟨0, _, ⟨front, rest, by rw [hzero]; rfl, rfl, by norm_num, rfl⟩, ?_⟩
      simp only [Nat.zero_ne_one, if_false, bind_eq_ok, require_eq_ok, exists_const, pure_eq_ok,
        true_and]
      rfl
    · refine ⟨1, _, ⟨front, encode a ++ rest, by rw [hone]; rfl, rfl, by norm_num, rfl⟩, ?_⟩
      rw [if_pos rfl]
      refine (h _ _ _ (by simp [encodeOption])).mpr
        ⟨front ++ [1], a, rest, by simp [encodeOption], by simp, ho a rfl, ?_⟩
      rw [encodeOption, List.length_cons]
      omega

/-! ### Zeros behind -/

lemma zeros_iff {l : List UInt8} : (∀ b ∈ l, b = 0) ↔ ∃ n, l = List.replicate n 0 := by
  constructor
  · intro h
    exact ⟨l.length, List.eq_replicate_of_mem h⟩
  · rintro ⟨n, rfl⟩ b hb
    exact List.eq_of_mem_replicate hb

end

end Borsh
end ArioSolana
