import ArioSolana.AnchorAccounts
import ArioSolana.AntAcl

/-!
# Layouts of the accounts

The accounts of an ANT in full, as the program stores them. Each has its fields first and its schema
version last; before versions there were the fields alone. Strings, lists and options make the
encodings of different lengths, and the accounts are allocated for the longest one, except that a
page is allocated for the entries that it has had. -/

namespace ArioSolana
namespace Ant

open Checked Solana Borsh Anchor

/-! ### Formats of the parts -/

def pubkeyCodec : Codec Pubkey :=
  (Codec.word 32).pmap (fun n => if h : n < 2 ^ 256 then some ⟨⟨n, h⟩⟩ else none)
    (fun k => k.bytes.val) (fun _ => True) (by
      intro n k
      have hword : ∀ n, (Codec.word 32).Valid n ↔ n < 2 ^ 256 := by
        intro n
        unfold Codec.word
        norm_num
      rw [hword]
      constructor
      · rintro ⟨hn, h⟩
        rw [dif_pos hn] at h
        obtain rfl := Option.some.inj h
        exact ⟨trivial, rfl⟩
      · rintro ⟨-, rfl⟩
        exact ⟨k.bytes.isLt, dif_pos k.bytes.isLt⟩)

/-- The fields of an account, and its version behind them. -/
structure Versioned (β : Type) where
  fields : β
  version : SchemaVersion
deriving DecidableEq

def Versioned.codec {β : Type} (c : Codec β) : Codec (Versioned β) :=
  (c.pair versionCodec).record (fun a => ⟨a.1, a.2⟩) (fun a => (a.fields, a.version)) (fun _ => rfl)
    (fun _ => rfl)

/-! ### Fields -/

structure AntConfigFields where
  mint : Pubkey
  name : Text
  ticker : Text
  logo : Text
  description : Text
  keywords : List Text
  lastKnownOwner : Pubkey
  bump : ℕ
deriving DecidableEq

structure AntControllersFields where
  mint : Pubkey
  controllers : List Pubkey
  bump : ℕ
deriving DecidableEq

structure AntRecordFields where
  mint : Pubkey
  undername : Text
  target : Text
  targetProtocol : ℕ
  ttlSeconds : ℕ
  priority : Option ℕ
  owner : Option Pubkey
  lastReconciledOwner : Pubkey
  bump : ℕ
deriving DecidableEq

structure AntRecordMetadataFields where
  mint : Pubkey
  undernameHash : Bytes32
  displayName : Option Text
  recordLogo : Option Text
  recordDescription : Option Text
  recordKeywords : Option (List Text)
  bump : ℕ
deriving DecidableEq

/-- An entry of a page, with its role as the byte that is stored. -/
structure AclEntryFields where
  asset : Pubkey
  role : ℕ
deriving DecidableEq

structure AclPageFields where
  user : Pubkey
  pageIdx : ℕ
  entries : List AclEntryFields
  bump : ℕ
deriving DecidableEq

def antConfigCodec : Codec AntConfigFields :=
  (pubkeyCodec.pair (Codec.string.pair (Codec.string.pair (Codec.string.pair (Codec.string.pair
    (Codec.string.vec.pair (pubkeyCodec.pair (Codec.word 1)))))))).record
    (fun x => ⟨x.1, x.2.1, x.2.2.1, x.2.2.2.1, x.2.2.2.2.1, x.2.2.2.2.2.1, x.2.2.2.2.2.2.1,
      x.2.2.2.2.2.2.2⟩)
    (fun c => (c.mint, c.name, c.ticker, c.logo, c.description, c.keywords, c.lastKnownOwner,
      c.bump)) (fun _ => rfl) (fun _ => rfl)

def antControllersCodec : Codec AntControllersFields :=
  (pubkeyCodec.pair (pubkeyCodec.vec.pair (Codec.word 1))).record
    (fun x => ⟨x.1, x.2.1, x.2.2⟩) (fun c => (c.mint, c.controllers, c.bump)) (fun _ => rfl)
    (fun _ => rfl)

def antRecordCodec : Codec AntRecordFields :=
  (pubkeyCodec.pair (Codec.string.pair (Codec.string.pair ((Codec.word 1).pair ((Codec.word 4).pair
    ((Codec.word 4).option.pair (pubkeyCodec.option.pair (pubkeyCodec.pair
      (Codec.word 1))))))))).record
    (fun x => ⟨x.1, x.2.1, x.2.2.1, x.2.2.2.1, x.2.2.2.2.1, x.2.2.2.2.2.1, x.2.2.2.2.2.2.1,
      x.2.2.2.2.2.2.2.1, x.2.2.2.2.2.2.2.2⟩)
    (fun r => (r.mint, r.undername, r.target, r.targetProtocol, r.ttlSeconds, r.priority, r.owner,
      r.lastReconciledOwner, r.bump)) (fun _ => rfl) (fun _ => rfl)

def antRecordMetadataCodec : Codec AntRecordMetadataFields :=
  (pubkeyCodec.pair ((Codec.raw 32).pair (Codec.string.option.pair (Codec.string.option.pair
    (Codec.string.option.pair (Codec.string.vec.option.pair (Codec.word 1))))))).record
    (fun x => ⟨x.1, x.2.1, x.2.2.1, x.2.2.2.1, x.2.2.2.2.1, x.2.2.2.2.2.1, x.2.2.2.2.2.2⟩)
    (fun m => (m.mint, m.undernameHash, m.displayName, m.recordLogo, m.recordDescription,
      m.recordKeywords, m.bump)) (fun _ => rfl) (fun _ => rfl)

def aclEntryCodec : Codec AclEntryFields :=
  (pubkeyCodec.pair (Codec.word 1)).record (fun x => ⟨x.1, x.2⟩) (fun e => (e.asset, e.role))
    (fun _ => rfl) (fun _ => rfl)

def aclPageCodec : Codec AclPageFields :=
  (pubkeyCodec.pair ((Codec.word 8).pair (aclEntryCodec.vec.pair (Codec.word 1)))).record
    (fun x => ⟨x.1, x.2.1, x.2.2.1, x.2.2.2⟩) (fun p => (p.user, p.pageIdx, p.entries, p.bump))
    (fun _ => rfl) (fun _ => rfl)

/-! ### Sizes -/

def schemaVersionSize : ℕ := 3

def antConfigSize : ℕ :=
  8 + 32 + (4 + maxNameLength) + (4 + maxTickerLength) + (4 + arweaveTxIdLength)
    + (4 + maxDescriptionLength) + (4 + maxKeywords * (4 + maxKeywordLength)) + 32 + 1
    + schemaVersionSize

def antControllersSize : ℕ := 8 + 32 + (4 + maxControllers * 32) + 1 + schemaVersionSize

def antRecordSize : ℕ :=
  8 + 32 + (4 + maxUndernameLength) + (4 + maxTargetLength) + 1 + 4 + (1 + 4) + (1 + 32) + 32 + 1
    + schemaVersionSize

def antRecordMetadataSize : ℕ :=
  8 + 32 + 32 + (1 + 4 + maxUndernameLength) + (1 + 4 + arweaveTxIdLength)
    + (1 + 4 + maxDescriptionLength) + (1 + 4 + maxKeywords * (4 + maxKeywordLength)) + 1
    + schemaVersionSize

/-! ### Limits -/

/-- A text of at most `n` bytes. -/
def TextWithin (n : ℕ) (s : Text) : Prop := s.length ≤ n ∧ Utf8 s

structure KeywordsWithin (keywords : List Text) : Prop where
  count : keywords.length ≤ maxKeywords
  each : ∀ kw ∈ keywords, TextWithin maxKeywordLength kw

/-- The values that the program puts into the accounts. -/
structure AntConfigFields.WithinLimits (c : AntConfigFields) : Prop where
  name : TextWithin maxNameLength c.name
  ticker : TextWithin maxTickerLength c.ticker
  logo : TextWithin arweaveTxIdLength c.logo
  description : TextWithin maxDescriptionLength c.description
  keywords : KeywordsWithin c.keywords
  bump : c.bump < 2 ^ 8

structure AntControllersFields.WithinLimits (c : AntControllersFields) : Prop where
  controllers : c.controllers.length ≤ maxControllers
  bump : c.bump < 2 ^ 8

structure AntRecordFields.WithinLimits (r : AntRecordFields) : Prop where
  undername : TextWithin maxUndernameLength r.undername
  target : TextWithin maxTargetLength r.target
  targetProtocol : r.targetProtocol < 2 ^ 8
  ttlSeconds : r.ttlSeconds < 2 ^ 32
  priority : ∀ p ∈ r.priority, p < 2 ^ 32
  bump : r.bump < 2 ^ 8

structure AntRecordMetadataFields.WithinLimits (m : AntRecordMetadataFields) : Prop where
  displayName : ∀ s ∈ m.displayName, TextWithin maxUndernameLength s
  recordLogo : ∀ s ∈ m.recordLogo, TextWithin arweaveTxIdLength s
  recordDescription : ∀ s ∈ m.recordDescription, TextWithin maxDescriptionLength s
  recordKeywords : ∀ l ∈ m.recordKeywords, KeywordsWithin l
  bump : m.bump < 2 ^ 8

structure AclPageFields.WithinLimits (p : AclPageFields) : Prop where
  pageIdx : p.pageIdx < 2 ^ 64
  entries : p.entries.length ≤ maxAclPageEntries
  roles : ∀ e ∈ p.entries, e.role < 2 ^ 8
  bump : p.bump < 2 ^ 8

section

variable {s : Text} {n : ℕ} {o : Option Text} {keywords : List Text} {c : AntConfigFields}
  {l : AntControllersFields} {r : AntRecordFields} {m : AntRecordMetadataFields} {p : AclPageFields}

lemma TextWithin.valid (h : TextWithin n s) (hn : n < 256 ^ 4) : Codec.string.Valid s :=
  ⟨h.1.trans_lt hn, h.2⟩

lemma KeywordsWithin.valid (h : KeywordsWithin keywords) : Codec.string.vec.Valid keywords := by
  refine ⟨h.count.trans_lt (by unfold maxKeywords; norm_num), fun kw hkw => ?_⟩
  exact (h.each kw hkw).valid (by unfold maxKeywordLength; norm_num)

lemma KeywordsWithin.length_le (h : KeywordsWithin keywords) :
    (encodeVec encodeString keywords).length ≤ 4 + maxKeywords * (4 + maxKeywordLength) := by
  have hflat := flatMap_encodeString_length_le fun kw hkw => (h.each kw hkw).1
  have hcount := Nat.mul_le_mul_right (4 + maxKeywordLength) h.count
  rw [encodeVec, List.length_append, leBytes_length]
  omega

lemma AntConfigFields.WithinLimits.valid (h : c.WithinLimits) : antConfigCodec.Valid c :=
  ⟨trivial, h.name.valid (by decide), h.ticker.valid (by decide), h.logo.valid (by decide),
    h.description.valid (by decide), h.keywords.valid, trivial, h.bump⟩

lemma AntControllersFields.WithinLimits.valid (h : l.WithinLimits) : antControllersCodec.Valid l :=
  ⟨trivial, ⟨h.controllers.trans_lt (by decide), fun _ _ => trivial⟩, h.bump⟩

lemma AntRecordFields.WithinLimits.valid (h : r.WithinLimits) : antRecordCodec.Valid r :=
  ⟨trivial, h.undername.valid (by decide), h.target.valid (by decide), h.targetProtocol,
    h.ttlSeconds, h.priority, fun _ _ => trivial, trivial, h.bump⟩

lemma AntRecordMetadataFields.WithinLimits.valid (h : m.WithinLimits) :
    antRecordMetadataCodec.Valid m :=
  ⟨trivial, trivial, fun s hs => (h.displayName s hs).valid (by decide),
    fun s hs => (h.recordLogo s hs).valid (by decide),
    fun s hs => (h.recordDescription s hs).valid (by decide),
    fun l hl => (h.recordKeywords l hl).valid, h.bump⟩

lemma AclPageFields.WithinLimits.valid (h : p.WithinLimits) : aclPageCodec.Valid p :=
  ⟨trivial, h.pageIdx, ⟨h.entries.trans_lt (by decide), fun e he => ⟨trivial, h.roles e he⟩⟩,
    h.bump⟩

/-! ### Lengths -/

@[simp] lemma pubkeyCodec_length (k : Pubkey) : (pubkeyCodec.encode k).length = 32 :=
  leBytes_length 32 _

@[simp] lemma string_encode (s : Text) : Codec.string.encode s = encodeString s := rfl

@[simp] lemma word_encode (k n : ℕ) : (Codec.word k).encode n = leBytes k n := rfl

lemma option_string_length_le (h : ∀ s ∈ o, TextWithin n s) :
    (Codec.string.option.encode o).length ≤ 1 + 4 + n := by
  cases o with
  | none =>
    simp only [Codec.option, encodeOption, List.length_cons, List.length_nil]
    omega
  | some s =>
    have hs := (h s rfl).1
    simp only [Codec.option, encodeOption, string_encode, List.length_cons, encodeString_length]
    omega

lemma antConfigCodec_encode (c : AntConfigFields) : antConfigCodec.encode c =
    pubkeyCodec.encode c.mint ++ (encodeString c.name ++ (encodeString c.ticker ++
      (encodeString c.logo ++ (encodeString c.description ++ (encodeVec encodeString c.keywords ++
        (pubkeyCodec.encode c.lastKnownOwner ++ leBytes 1 c.bump)))))) := rfl

lemma AntConfigFields.WithinLimits.length_le (h : c.WithinLimits) :
    8 + (antConfigCodec.encode c).length + 3 ≤ antConfigSize := by
  have hname := h.name.1
  have hticker := h.ticker.1
  have hlogo := h.logo.1
  have hdescription := h.description.1
  have hkeywords := h.keywords.length_le
  simp only [antConfigCodec_encode, List.length_append, encodeString_length, leBytes_length,
    pubkeyCodec_length]
  simp only [antConfigSize, schemaVersionSize]
  omega

lemma antControllersCodec_length (l : AntControllersFields) :
    (antControllersCodec.encode l).length = 32 + (4 + l.controllers.length * 32) + 1 := by
  have hkeys : ∀ keys : List Pubkey, (keys.flatMap pubkeyCodec.encode).length
      = keys.length * 32 := by
    intro keys
    induction keys with
    | nil => rfl
    | cons k keys ih =>
      rw [List.flatMap_cons, List.length_append, pubkeyCodec_length, ih, List.length_cons]
      omega
  change (pubkeyCodec.encode l.mint ++ ((leBytes 4 l.controllers.length
    ++ l.controllers.flatMap pubkeyCodec.encode) ++ leBytes 1 l.bump)).length = _
  simp only [List.length_append, leBytes_length, pubkeyCodec_length, hkeys]
  omega

lemma AntControllersFields.WithinLimits.length_le (h : l.WithinLimits) :
    8 + (antControllersCodec.encode l).length + 3 ≤ antControllersSize := by
  have hcount := Nat.mul_le_mul_right 32 h.controllers
  rw [antControllersCodec_length, antControllersSize, schemaVersionSize]
  omega

lemma AntRecordFields.WithinLimits.length_le (h : r.WithinLimits) :
    8 + (antRecordCodec.encode r).length + 3 ≤ antRecordSize := by
  have hundername := h.undername.1
  have htarget := h.target.1
  have hpriority : ((Codec.word 4).option.encode r.priority).length ≤ 1 + 4 := by
    cases r.priority <;> simp [Codec.option, encodeOption]
  have howner : (pubkeyCodec.option.encode r.owner).length ≤ 1 + 32 := by
    cases r.owner <;> simp [Codec.option, encodeOption]
  change 8 + (pubkeyCodec.encode r.mint ++ (encodeString r.undername ++ (encodeString r.target ++
    (leBytes 1 r.targetProtocol ++ (leBytes 4 r.ttlSeconds ++
      ((Codec.word 4).option.encode r.priority ++ (pubkeyCodec.option.encode r.owner ++
        (pubkeyCodec.encode r.lastReconciledOwner ++ leBytes 1 r.bump)))))))).length + 3 ≤ _
  simp only [List.length_append, encodeString_length, leBytes_length, pubkeyCodec_length]
  simp only [antRecordSize, schemaVersionSize]
  omega

lemma AntRecordMetadataFields.WithinLimits.length_le (h : m.WithinLimits) :
    8 + (antRecordMetadataCodec.encode m).length + 3 ≤ antRecordMetadataSize := by
  have hname := option_string_length_le h.displayName
  have hlogo := option_string_length_le h.recordLogo
  have hdescription := option_string_length_le h.recordDescription
  have hkeywords : (Codec.string.vec.option.encode m.recordKeywords).length
      ≤ 1 + (4 + maxKeywords * (4 + maxKeywordLength)) := by
    cases hlist : m.recordKeywords with
    | none => simp [Codec.option, encodeOption]
    | some keywords =>
      have hle := (h.recordKeywords keywords hlist).length_le
      change (1 :: encodeVec encodeString keywords).length ≤ _
      rw [List.length_cons]
      omega
  change 8 + (pubkeyCodec.encode m.mint ++ (m.undernameHash.toList ++
    (Codec.string.option.encode m.displayName ++ (Codec.string.option.encode m.recordLogo ++
      (Codec.string.option.encode m.recordDescription ++
        (Codec.string.vec.option.encode m.recordKeywords ++ leBytes 1 m.bump)))))).length + 3 ≤ _
  simp only [List.length_append, leBytes_length, pubkeyCodec_length, Vector.length_toList]
  simp only [antRecordMetadataSize, schemaVersionSize]
  omega

lemma aclPageCodec_length (p : AclPageFields) :
    8 + (aclPageCodec.encode p).length + 3 = AclPage.sizeFor p.entries.length := by
  have hentries : ∀ entries : List AclEntryFields, (entries.flatMap aclEntryCodec.encode).length
      = entries.length * 33 := by
    intro entries
    induction entries with
    | nil => rfl
    | cons e entries ih =>
      have hone : (aclEntryCodec.encode e).length = 33 := by
        change (pubkeyCodec.encode e.asset ++ leBytes 1 e.role).length = 33
        simp
      rw [List.flatMap_cons, List.length_append, hone, ih, List.length_cons]
      omega
  change 8 + (pubkeyCodec.encode p.user ++ (leBytes 8 p.pageIdx ++ ((leBytes 4 p.entries.length
    ++ p.entries.flatMap aclEntryCodec.encode) ++ leBytes 1 p.bump))).length + 3 = _
  simp only [List.length_append, leBytes_length, pubkeyCodec_length, hentries]
  simp only [AclPage.sizeFor, aclPageMinSize, aclEntrySize]
  omega

end

end Ant
end ArioSolana
