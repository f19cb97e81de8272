import ArioSolana.Borsh

/-!
# Codecs

A codec writes the values of a type as bytes and reads them back from the front of a buffer. Its law
says that it reads exactly what it writes. So what stands behind a value, whatever it is, neither
changes the value that is read nor is touched by reading it; and two values never have texts of
which one begins the other.

Accounts are buffers of a fixed length: a value is written over the front of the buffer, behind a
mark for its type, and the bytes behind it stay.
-/

namespace ArioSolana
namespace Borsh

/-- A format for the values of a type. -/
structure Codec (α : Type) where
  /-- the values that the format has room for -/
  Valid : α → Prop
  encode : α → List UInt8
  decode : List UInt8 → Option (α × List UInt8)
  /-- the format reads exactly what it writes -/
  decode_eq_some : ∀ {data a rest}, decode data = some (a, rest) ↔ Valid a ∧ data = encode a ++ rest

section

variable {α β : Type} {data rest rest' more l : List UInt8} {a a' : α} {n : ℕ} {as : List α}

lemma Codec.decode_encode (c : Codec α) (h : c.Valid a) (rest : List UInt8) :
    c.decode (c.encode a ++ rest) = some (a, rest) :=
  c.decode_eq_some.mpr ⟨h, rfl⟩

lemma Codec.encode_inj (c : Codec α) (ha : c.Valid a) (ha' : c.Valid a')
    (h : c.encode a ++ rest = c.encode a' ++ rest') : a = a' ∧ rest = rest' := by
  have hread := c.decode_encode ha rest
  rw [h, c.decode_encode ha'] at hread
  obtain ⟨rfl, rfl⟩ := Prod.mk.inj (Option.some.inj hread)
  exact ⟨rfl, rfl⟩

/-! ### Numbers -/

lemma leBytes_ofLeBytes (l : List UInt8) : leBytes l.length (ofLeBytes l) = l := by
  induction l with
  | nil => rfl
  | cons b l ih =>
    have hb := b.toNat_lt
    have hmod : (b.toNat + 256 * ofLeBytes l) % 256 = b.toNat := by omega
    have hdiv : (b.toNat + 256 * ofLeBytes l) / 256 = ofLeBytes l := by omega
    rw [List.length_cons, leBytes_succ, ofLeBytes, hmod, hdiv, ih, UInt8.ofNat_toNat]

lemma ofLeBytes_lt (l : List UInt8) : ofLeBytes l < 256 ^ l.length := by
  induction l with
  | nil => decide
  | cons b l ih =>
    have hb := b.toNat_lt
    rw [ofLeBytes, List.length_cons, pow_succ]
    omega

/-- Numbers below `256 ^ k`, in `k` bytes. -/
def Codec.word (k : ℕ) : Codec ℕ where
  Valid n := n < 256 ^ k
  encode := leBytes k
  decode data := if data.length < k then none else some (ofLeBytes (data.take k), data.drop k)
  decode_eq_some {data n rest} := by
    constructor
    · intro h
      split at h
      · cases h
      · rename_i hlen
        obtain ⟨rfl, rfl⟩ := Prod.mk.inj (Option.some.inj h)
        have htake : (data.take k).length = k := by
          rw [List.length_take]
          omega
        have hback := leBytes_ofLeBytes (data.take k)
        rw [htake] at hback
        refine ⟨(ofLeBytes_lt _).trans_eq (by rw [htake]), ?_⟩
        rw [hback, List.take_append_drop]
    · rintro ⟨hn, rfl⟩
      have hlen : ¬ (leBytes k n ++ rest).length < k := by
        rw [List.length_append, leBytes_length]
        omega
      rw [if_neg hlen, List.take_left' (leBytes_length k n), List.drop_left' (leBytes_length k n),
        ofLeBytes_leBytes hn]

/-- A fixed number of bytes. -/
def Codec.raw (k : ℕ) : Codec (Vector UInt8 k) where
  Valid _ := True
  encode v := v.toList
  decode data :=
    if h : (data.take k).length = k then
      some (⟨(data.take k).toArray, by rw [List.size_toArray, h]⟩, data.drop k)
    else none
  decode_eq_some {data v rest} := by
    constructor
    · intro h
      split at h
      · obtain ⟨rfl, rfl⟩ := Prod.mk.inj (Option.some.inj h)
        exact ⟨trivial, (List.take_append_drop k data).symm⟩
      · cases h
    · rintro ⟨-, rfl⟩
      have htake : (v.toList ++ rest).take k = v.toList := List.take_left' v.length_toList
      have hlen : ((v.toList ++ rest).take k).length = k := by rw [htake, v.length_toList]
      rw [dif_pos hlen, List.drop_left' v.length_toList]
      simp only [htake, Option.some.injEq, Prod.mk.injEq, and_true]
      rfl

/-! ### Combinations -/

/-- One value behind another. -/
def Codec.pair (c : Codec α) (d : Codec β) : Codec (α × β) where
  Valid x := c.Valid x.1 ∧ d.Valid x.2
  encode x := c.encode x.1 ++ d.encode x.2
  decode data := do
    let (a, data) ← c.decode data
    let (b, data) ← d.decode data
    return ((a, b), data)
  decode_eq_some {data x rest} := by
    obtain ⟨a, b⟩ := x
    simp only [Option.bind_eq_bind, Option.bind_eq_some_iff, Prod.exists, c.decode_eq_some,
      d.decode_eq_some, Option.pure_def, Option.some.injEq, Prod.mk.injEq]
    constructor
    · rintro ⟨_, _, ⟨ha, rfl⟩, _, _, ⟨hb, rfl⟩, ⟨rfl, rfl⟩, rfl⟩
      exact ⟨⟨ha, hb⟩, (List.append_assoc _ _ _).symm⟩
    · rintro ⟨⟨ha, hb⟩, rfl⟩
      exact ⟨a, _, ⟨ha, List.append_assoc _ _ _⟩, b, rest, ⟨hb, rfl⟩, ⟨rfl, rfl⟩, rfl⟩

/-- The values of `β` in the format of their counterparts in `α`, some of which have none. -/
def Codec.pmap (c : Codec α) (into : α → Option β) (of : β → α) (V : β → Prop)
    (law : ∀ {a b}, c.Valid a ∧ into a = some b ↔ V b ∧ a = of b) : Codec β where
  Valid := V
  encode b := c.encode (of b)
  decode data := do
    let (a, data) ← c.decode data
    let b ← into a
    return (b, data)
  decode_eq_some {data b rest} := by
    simp only [Option.bind_eq_bind, Option.bind_eq_some_iff, Prod.exists, c.decode_eq_some,
      Option.pure_def, Option.some.injEq, Prod.mk.injEq]
    constructor
    · rintro ⟨a, _, ⟨ha, rfl⟩, _, hinto, rfl, rfl⟩
      obtain ⟨hb, rfl⟩ := law.mp ⟨ha, hinto⟩
      exact ⟨hb, rfl⟩
    · rintro ⟨hb, rfl⟩
      obtain ⟨ha, hinto⟩ := law.mpr ⟨hb, rfl⟩
      exact ⟨of b, rest, ⟨ha, rfl⟩, b, hinto, rfl, rfl⟩

/-- A record, in the format of its fields. -/
def Codec.record (c : Codec α) (into : α → β) (of : β → α) (hinto : ∀ b, into (of b) = b)
    (hof : ∀ a, of (into a) = a) : Codec β :=
  c.pmap (fun a => some (into a)) of (fun b => c.Valid (of b)) (by
    intro a b
    constructor
    · rintro ⟨ha, h⟩
      obtain rfl := Option.some.inj h
      rw [hof]
      exact ⟨ha, rfl⟩
    · rintro ⟨hb, rfl⟩
      exact ⟨hb, congrArg some (hinto b)⟩)

/-- A value that may be missing, behind a byte that says whether it is there. -/
def Codec.option (c : Codec α) : Codec (Option α) where
  Valid o := ∀ a ∈ o, c.Valid a
  encode := encodeOption c.encode
  decode data :=
    match data with
    | [] => none
    | tag :: data =>
      if tag = 0 then some (none, data)
      else if tag = 1 then (c.decode data).map fun p => (some p.1, p.2)
      else none
  decode_eq_some {data o rest} := by
    have hone : ¬ (1 : UInt8) = 0 := by decide
    cases data with
    | nil =>
      simp only [reduceCtorEq, false_iff, not_and]
      intro _ h
      cases o <;> cases h
    | cons tag data =>
      dsimp only
      by_cases h0 : tag = 0
      · subst h0
        cases o with
        | none => simp [encodeOption, eq_comm]
        | some a => simp [encodeOption]
      · rw [if_neg h0]
        by_cases h1 : tag = 1
        · subst h1
          rw [if_pos rfl, Option.map_eq_some_iff]
          cases o with
          | none => simp [encodeOption]
          | some a =>
            simp only [encodeOption, Option.mem_def, Option.some.injEq, forall_eq', Prod.exists,
              Prod.mk.injEq, List.cons_append, List.cons.injEq, true_and, ← c.decode_eq_some]
            constructor
            · rintro ⟨_, _, h, rfl, rfl⟩
              exact h
            · intro h
              exact ⟨a, rest, h, rfl, rfl⟩
        · rw [if_neg h1]
          cases o with
          | none => simp [encodeOption, h0]
          | some a => simp [encodeOption, h1]

/-- Integers in two's complement, in `k` bytes. -/
def Codec.signed (k : ℕ) : Codec ℤ :=
  (Codec.word k).pmap
    (fun n => some (if 2 * n < 256 ^ k then (n : ℤ) else n - (256 ^ k : ℕ)))
    (fun t => if 0 ≤ t then t.toNat else (t + (256 ^ k : ℕ)).toNat)
    (fun t => -(256 ^ k : ℕ) ≤ 2 * t ∧ 2 * t < (256 ^ k : ℕ)) (by
      intro n t
      have hword : (Codec.word k).Valid n ↔ n < 256 ^ k := Iff.rfl
      rw [hword, Option.some.injEq]
      generalize 256 ^ k = m
      constructor
      · rintro ⟨hn, rfl⟩
        by_cases hsmall : 2 * n < m
        · rw [if_pos hsmall, if_pos (by omega)]
          omega
        · rw [if_neg hsmall, if_neg (by omega)]
          omega
      · rintro ⟨ht, rfl⟩
        by_cases hsign : 0 ≤ t
        · rw [if_pos hsign, if_pos (by omega)]
          omega
        · rw [if_neg hsign, if_neg (by omega)]
          omega)

/-- One of a few values, as its place among them. -/
def Codec.choice [DecidableEq α] (values : List α) (distinct : values.Nodup)
    (few : values.length ≤ 256) : Codec α :=
  (Codec.word 1).pmap (fun n => values[n]?) (fun a => values.idxOf a) (fun a => a ∈ values) (by
    intro n a
    constructor
    · rintro ⟨-, h⟩
      obtain ⟨hn, rfl⟩ := List.getElem?_eq_some_iff.mp h
      exact ⟨List.getElem_mem hn, (distinct.idxOf_getElem n hn).symm⟩
    · rintro ⟨ha, rfl⟩
      have hn : values.idxOf a < values.length := List.idxOf_lt_length_of_mem ha
      exact ⟨hn.trans_le few, List.getElem?_idxOf ha⟩)

/-- Read some values. -/
def Codec.decodeMany (c : Codec α) : ℕ → List UInt8 → Option (List α × List UInt8)
  | 0, data => some ([], data)
  | n + 1, data => do
    let (a, data) ← c.decode data
    let (as, data) ← c.decodeMany n data
    return (a :: as, data)

lemma Codec.decodeMany_eq_some (c : Codec α) : c.decodeMany n data = some (as, rest) ↔
    as.length = n ∧ (∀ a ∈ as, c.Valid a) ∧ data = as.flatMap c.encode ++ rest := by
  induction n generalizing data as rest with
  | zero =>
    constructor
    · intro h
      obtain ⟨rfl, rfl⟩ := Prod.mk.inj (Option.some.inj h)
      exact ⟨rfl, by simp, rfl⟩
    · rintro ⟨hlen, -, rfl⟩
      rw [List.length_eq_zero_iff.mp hlen]
      rfl
  | succ n ih =>
    simp only [Codec.decodeMany, Option.bind_eq_bind, Option.bind_eq_some_iff, Prod.exists,
      c.decode_eq_some, ih, Option.pure_def, Option.some.injEq, Prod.mk.injEq]
    constructor
    · rintro ⟨a, _, ⟨ha, rfl⟩, as, _, ⟨rfl, has, rfl⟩, rfl, rfl⟩
      refine ⟨rfl, List.forall_mem_cons.mpr ⟨ha, has⟩, ?_⟩
      rw [List.flatMap_cons, List.append_assoc]
    · rintro ⟨hlen, has, rfl⟩
      obtain ⟨a, as', rfl⟩ : ∃ a as', as = a :: as' := List.exists_cons_of_length_eq_add_one hlen
      obtain ⟨ha, has'⟩ := List.forall_mem_cons.mp has
      refine ⟨a, _, ⟨ha, ?_⟩, as', rest, ⟨by simpa using hlen, has', rfl⟩, rfl, rfl⟩
      rw [List.flatMap_cons, List.append_assoc]

/-- Values behind their number. -/
def Codec.vec (c : Codec α) : Codec (List α) where
  Valid as := as.length < 256 ^ 4 ∧ ∀ a ∈ as, c.Valid a
  encode := encodeVec c.encode
  decode data := do
    let (n, data) ← (Codec.word 4).decode data
    c.decodeMany n data
  decode_eq_some {data as rest} := by
    simp only [Option.bind_eq_bind, Option.bind_eq_some_iff, Prod.exists, Codec.decode_eq_some,
      c.decodeMany_eq_some]
    constructor
    · rintro ⟨_, _, ⟨hn, rfl⟩, rfl, has, rfl⟩
      exact ⟨⟨hn, has⟩, (List.append_assoc _ _ _).symm⟩
    · rintro ⟨⟨hn, has⟩, rfl⟩
      exact ⟨as.length, _, ⟨hn, List.append_assoc _ _ _⟩, rfl, has, rfl⟩

/-- Bytes behind their number. -/
def Codec.bytes : Codec (List UInt8) where
  Valid s := s.length < 256 ^ 4
  encode := encodeString
  decode data := do
    let (n, data) ← (Codec.word 4).decode data
    if data.length < n then none else some (data.take n, data.drop n)
  decode_eq_some {data s rest} := by
    simp only [Option.bind_eq_bind, Option.bind_eq_some_iff, Prod.exists, Codec.decode_eq_some]
    constructor
    · rintro ⟨n, data, ⟨hn, rfl⟩, h⟩
      split at h
      · cases h
      · rename_i hlen
        obtain ⟨rfl, rfl⟩ := Prod.mk.inj (Option.some.inj h)
        have htake : (data.take n).length = n := by
          rw [List.length_take]
          omega
        refine ⟨htake.trans_lt hn, ?_⟩
        rw [encodeString, htake, List.append_assoc, List.take_append_drop]
        rfl
    · rintro ⟨hn, rfl⟩
      refine ⟨s.length, s ++ rest, ⟨hn, List.append_assoc _ _ _⟩, ?_⟩
      have hlen : ¬ (s ++ rest).length < s.length := by
        rw [List.length_append]
        exact Nat.not_lt.mpr (Nat.le_add_right _ _)
      rw [if_neg hlen, List.take_left, List.drop_left]

/-- The bytes are a text. -/
def Utf8 (s : List UInt8) : Prop := (ByteArray.mk s.toArray).IsValidUTF8

instance (s : List UInt8) : Decidable (Utf8 s) :=
  inferInstanceAs (Decidable (ByteArray.mk s.toArray).IsValidUTF8)

/-- A text, as its bytes in UTF-8. -/
def Codec.string : Codec (List UInt8) :=
  Codec.bytes.pmap (fun s => if Utf8 s then some s else none) id
    (fun s => s.length < 256 ^ 4 ∧ Utf8 s) (by
      intro s s'
      constructor
      · rintro ⟨hn, h⟩
        split at h
        · rename_i hutf8
          obtain rfl := Option.some.inj h
          exact ⟨⟨hn, hutf8⟩, rfl⟩
        · cases h
      · rintro ⟨⟨hn, hutf8⟩, rfl⟩
        exact ⟨hn, if_pos hutf8⟩)

end

end Borsh
end ArioSolana
