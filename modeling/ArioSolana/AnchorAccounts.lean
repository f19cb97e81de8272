import ArioSolana.BorshCodec

/-!
# Accounts and their layouts

An account of a program is a buffer of a fixed length: the mark of its type, the value in Borsh, and
whatever earlier and longer values left behind it. Reading ignores these bytes, writing leaves them
where they are. A migration first grows the buffer with zeros, and then reads it in the new layout.
-/

namespace ArioSolana
namespace Anchor

open Checked Borsh

/-! ### Versions -/

structure SchemaVersion where
  major : ℕ
  minor : ℕ
  patch : ℕ
deriving DecidableEq

/-- Versions are ordered by major, then minor, then patch. -/
def SchemaVersion.lt (a b : SchemaVersion) : Prop :=
  a.major < b.major ∨ a.major = b.major ∧
    (a.minor < b.minor ∨ a.minor = b.minor ∧ a.patch < b.patch)

instance (a b : SchemaVersion) : Decidable (a.lt b) := inferInstanceAs (Decidable (_ ∨ _))

def SchemaVersion.encode (v : SchemaVersion) : List UInt8 :=
  leBytes 1 v.major ++ leBytes 1 v.minor ++ leBytes 1 v.patch

def versionCodec : Codec SchemaVersion :=
  ((Codec.word 1).pair ((Codec.word 1).pair (Codec.word 1))).record
    (fun v => ⟨v.1, v.2.1, v.2.2⟩) (fun v => (v.major, v.minor, v.patch)) (fun _ => rfl)
    (fun _ => rfl)

/-! ### Accounts -/

inductive AccountError where
  | accountDiscriminatorNotFound
  | accountDiscriminatorMismatch
  | accountDidNotDeserialize
  | accountDidNotSerialize
  | unknownSchemaVersion
  | alreadyLatestVersion
  | preV110GatewayLayout
deriving DecidableEq

/-- The mark of a type of accounts, and the format of its values. -/
structure Layout (α : Type) where
  discriminator : Vector UInt8 8
  codec : Codec α

variable {α : Type} {L : Layout α} {a a' : α} {data data' rest stale : List UInt8} {n : ℕ}

def Layout.encode (L : Layout α) (a : α) : List UInt8 := L.discriminator.toList ++ L.codec.encode a

/-- `try_deserialize`. -/
def Layout.tryDeserialize (L : Layout α) (data : List UInt8) : Except AccountError α := do
  require (8 ≤ data.length) .accountDiscriminatorNotFound
  require (data.take 8 = L.discriminator.toList) .accountDiscriminatorMismatch
  match L.codec.decode (data.drop 8) with
  | some (a, _) => return a
  | none => .error .accountDidNotDeserialize

/-- The data of an account after `grow_account`. What the payer adds for rent is no part of them. -/
def growAccount (newSize : ℕ) (data : List UInt8) : List UInt8 :=
  if data.length < newSize then data ++ List.replicate (newSize - data.length) 0
  else data.take newSize

/-- `write_account`, and how the framework writes an account back. -/
def Layout.writeAccount (L : Layout α) (a : α) (data : List UInt8) :
    Except AccountError (List UInt8) := do
  let buf := L.encode a
  require (¬ data.length < buf.length) .accountDidNotSerialize
  return buf ++ data.drop buf.length

lemma Layout.encode_length (L : Layout α) (a : α) :
    (L.encode a).length = 8 + (L.codec.encode a).length := by
  rw [encode, List.length_append, Vector.length_toList]

/-- Reading ignores what stands behind the value. -/
lemma Layout.tryDeserialize_eq_ok :
    L.tryDeserialize data = .ok a ↔ L.codec.Valid a ∧ ∃ stale, data = L.encode a ++ stale := by
  have hdisc : L.discriminator.toList.length = 8 := L.discriminator.length_toList
  constructor
  · intro h
    obtain ⟨_, hlen, h⟩ := bind_eq_ok.mp h
    obtain ⟨_, hmark, h⟩ := bind_eq_ok.mp h
    split at h
    · rename_i b rest hread
      obtain rfl := Except.ok.inj h
      obtain ⟨hvalid, hdrop⟩ := L.codec.decode_eq_some.mp hread
      refine ⟨hvalid, rest, ?_⟩
      rw [encode, List.append_assoc, ← hdrop, ← require_eq_ok.mp hmark, List.take_append_drop]
    · cases h
  · rintro ⟨hvalid, stale, rfl⟩
    have hlen : 8 ≤ (L.encode a ++ stale).length := by
      rw [List.length_append, L.encode_length]
      omega
    have hmark : (L.encode a ++ stale).take 8 = L.discriminator.toList := by
      rw [encode, List.append_assoc, List.take_left' hdisc]
    have hread : L.codec.decode ((L.encode a ++ stale).drop 8) = some (a, stale) := by
      rw [encode, List.append_assoc, List.drop_left' hdisc, L.codec.decode_encode hvalid]
    rw [tryDeserialize, require_of hlen, ok_bind, require_of hmark, ok_bind, hread]
    rfl

lemma Layout.writeAccount_eq_ok : L.writeAccount a data = .ok data' ↔
    (L.encode a).length ≤ data.length ∧ data' = L.encode a ++ data.drop (L.encode a).length := by
  constructor
  · intro h
    obtain ⟨_, hlen, h⟩ := bind_eq_ok.mp h
    exact ⟨Nat.le_of_not_lt (require_eq_ok.mp hlen), (Except.ok.inj h).symm⟩
  · rintro ⟨hlen, rfl⟩
    rw [writeAccount, require_of (Nat.not_lt.mpr hlen), ok_bind]
    rfl

/-- Writing does not change the length. -/
lemma Layout.writeAccount_length (h : L.writeAccount a data = .ok data') :
    data'.length = data.length := by
  obtain ⟨hlen, rfl⟩ := writeAccount_eq_ok.mp h
  rw [List.length_append, List.length_drop]
  omega

/-- What was written is what is read. -/
lemma Layout.tryDeserialize_writeAccount (hvalid : L.codec.Valid a)
    (h : L.writeAccount a data = .ok data') : L.tryDeserialize data' = .ok a :=
  tryDeserialize_eq_ok.mpr ⟨hvalid, _, (writeAccount_eq_ok.mp h).2⟩

lemma growAccount_length (n : ℕ) (data : List UInt8) : (growAccount n data).length = n := by
  unfold growAccount
  split
  · rw [List.length_append, List.length_replicate]
    omega
  · rw [List.length_take]
    omega

lemma growAccount_of_length (h : data.length = n) : growAccount n data = data := by
  rw [growAccount, if_neg (by omega), ← h, List.take_length]

lemma growAccount_append {k : ℕ} (h : data.length + k = n) :
    growAccount n data = data ++ List.replicate k 0 := by
  by_cases hk : k = 0
  · subst hk
    rw [growAccount_of_length h, List.replicate_zero, List.append_nil]
  · rw [growAccount, if_pos (by omega)]
    congr 2
    omega

end Anchor
end ArioSolana
