import ArioSolana.ArnsTypes
import ArioSolana.BorshCodec
import ArioSolana.CoreReaders

/-!
# Attributes of an asset

`sync_attributes` and `clear_attributes` replace the whole list of an asset's attributes, so they
read the trait `ANT Program` back first. The reader does not follow the plugin registry: it takes
the first byte 6 that something like a list of attributes follows. Such a place may be anywhere in
the account, and then the trait that is written back is the one of that place. -/

namespace ArioSolana
namespace Ant

open Checked Solana Borsh
open Arns (ArnsRecord PurchaseType)

/-! ### Attributes -/

/-- One attribute; texts are the lists of their UTF-8 bytes. -/
structure AttributeKv where
  key : List UInt8
  value : List UInt8
deriving DecidableEq

def traitKeyArnsName : List UInt8 := ascii "ArNS Name"

def traitKeyType : List UInt8 := ascii "Type"

def traitKeyUndernameLimit : List UInt8 := ascii "Undername Limit"

def traitKeyAntProgram : List UInt8 := ascii "ANT Program"

def updatePluginV1Discriminator : UInt8 := 6

def pluginVariantAttributes : UInt8 := 6

def purchaseTypeStr : PurchaseType → List UInt8
  | .lease => ascii "lease"
  | .permabuy => ascii "permabuy"

/-- The traits of a record. -/
def canonicalTraits (record : ArnsRecord) : List AttributeKv :=
  [⟨traitKeyArnsName, record.name⟩, ⟨traitKeyType, purchaseTypeStr record.purchaseType⟩,
    ⟨traitKeyUndernameLimit, ascii (toString record.undernameLimit)⟩]

/-- The trait `ANT Program`, if there is one. -/
def antProgramTrait (existingAntProgram : Option (List UInt8)) : List AttributeKv :=
  match existingAntProgram with
  | some program => [⟨traitKeyAntProgram, program⟩]
  | none => []

def buildAttributeList (record : ArnsRecord) (existingAntProgram : Option (List UInt8)) :
    List AttributeKv :=
  canonicalTraits record ++ antProgramTrait existingAntProgram

def encodeAttribute (a : AttributeKv) : List UInt8 := encodeString a.key ++ encodeString a.value

def encodeUpdateAttributesIxData (attributes : List AttributeKv) : List UInt8 :=
  updatePluginV1Discriminator :: pluginVariantAttributes :: encodeVec encodeAttribute attributes

/-! ### Reading a trait back -/

/-- `std::str::from_utf8`. -/
def fromUtf8 (bytes : List UInt8) : Option (List UInt8) :=
  if Utf8 bytes then some bytes else none

def readU32 (data : List UInt8) (p : ℕ) : Option ℕ :=
  if data.length < p + 4 then none else some (ofLeBytes ((data.drop p).take 4))

/-- A text behind its length, and the position after it. -/
def readCapped (data : List UInt8) (p cap : ℕ) : Option (List UInt8 × ℕ) := do
  let n ← readU32 data p
  if cap < n ∨ data.length < p + 4 + n then none
  else some ((data.drop (p + 4)).take n, p + 4 + n)

/-- What was found after one more attribute. -/
def foundAfter (wantKey k v : List UInt8) (found : Option (List UInt8)) :
    Option (Option (List UInt8)) :=
  if k = wantKey then (fromUtf8 v).map some else some found

/-- Read some attributes; the last value of the wanted key is what was found. -/
def tryParseEntries (data wantKey : List UInt8) :
    ℕ → ℕ → Option (List UInt8) → Option (Option (List UInt8))
  | 0, _, found => some found
  | n + 1, p, found => do
    let (k, p) ← readCapped data p 256
    let (v, p) ← readCapped data p 1024
    let found ← foundAfter wantKey k v found
    tryParseEntries data wantKey n p found

def tryParseAttributesAt (data : List UInt8) (p : ℕ) (wantKey : List UInt8) :
    Option (Option (List UInt8)) := do
  let count ← readU32 data p
  if 64 < count then none else tryParseEntries data wantKey count (p + 4) none

/-- The value of a trait in the account of an asset. -/
def readExistingAttribute (assetData key : List UInt8) : Option (List UInt8) :=
  ((List.range' 1 (assetData.length - 5)).findSome? fun i =>
    if assetData.getD i 0 = pluginVariantAttributes then tryParseAttributesAt assetData (i + 1) key
    else none).join

/-! ### The instructions -/

inductive SyncError where
  | invalidAsset
  | notNftHolder
  | invalidArnsRecord
deriving DecidableEq

/-- What the two instructions take from their surroundings. -/
structure SyncEnv where
  sha256 : List UInt8 → Bytes32
  toLowercase : List UInt8 → List UInt8
  arnsProgram : Pubkey
  /-- the address of the record of a name, by the hash of the name -/
  arnsRecordAddress : Bytes32 → Pubkey
  /-- the address that signs for the program -/
  antAuthority : Pubkey → Pubkey

/-- The account that is passed for a record, with what its data decode to. -/
structure RecordInfo where
  key : Pubkey
  owner : Pubkey
  record : Option ArnsRecord

/-- The call of the asset program: the attributes, and who signs. -/
structure UpdatePluginV1 where
  asset : Pubkey
  authority : Pubkey
  attributes : List AttributeKv

def readMplCoreOwner (data : List UInt8) : Except SyncError Pubkey := do
  require (33 ≤ data.length) .invalidAsset
  require (data.getD 0 0 = 1) .invalidAsset
  return Core.pubkeyOfBytes ((data.drop 1).take 32)

def readMplCoreUpdateAuthority (data : List UInt8) : Except SyncError (Option Pubkey) := do
  require (34 ≤ data.length) .invalidAsset
  require (data.getD 0 0 = 1) .invalidAsset
  if data.getD 33 0 = 1 then
    require (66 ≤ data.length) .invalidAsset
    return some (Core.pubkeyOfBytes ((data.drop 34).take 32))
  else return none

/-- Who may sync: anyone, when the program signs for the asset, and else its owner. -/
def authorizeSync (programControlled : Prop) [Decidable programControlled] (payer : Pubkey)
    (assetData : List UInt8) : Except SyncError Unit :=
  if programControlled then return ()
  else do
    let nftOwner ← readMplCoreOwner assetData
    require (payer = nftOwner) .notNftHolder

def syncAttributesHandler (env : SyncEnv) (asset payer : Pubkey) (assetData : List UInt8)
    (arnsRecord : RecordInfo) (name : List UInt8) : Except SyncError UpdatePluginV1 := do
  let currentUa ← readMplCoreUpdateAuthority assetData
  let programControlled := currentUa = some (env.antAuthority asset)
  authorizeSync programControlled payer assetData
  let existingProgram := readExistingAttribute assetData traitKeyAntProgram
  require (arnsRecord.owner = env.arnsProgram) .invalidArnsRecord
  let nameHash := env.sha256 (env.toLowercase name)
  require (arnsRecord.key = env.arnsRecordAddress nameHash) .invalidArnsRecord
  let record ← okOr arnsRecord.record .invalidArnsRecord
  require (record.ant = asset) .invalidArnsRecord
  return ⟨asset, if programControlled then env.antAuthority asset else payer,
    buildAttributeList record existingProgram⟩

def clearAttributesHandler (env : SyncEnv) (asset authority : Pubkey) (assetData : List UInt8) :
    Except SyncError UpdatePluginV1 := do
  let nftOwner ← readMplCoreOwner assetData
  require (authority = nftOwner) .notNftHolder
  let currentUa ← readMplCoreUpdateAuthority assetData
  let programControlled := currentUa = some (env.antAuthority asset)
  let existingProgram := readExistingAttribute assetData traitKeyAntProgram
  return ⟨asset, if programControlled then env.antAuthority asset else authority,
    antProgramTrait existingProgram⟩

/-! ### The layout of an asset -/

inductive AssetUpdateAuthority where
  | none
  | address (key : Pubkey)
  | collection (key : Pubkey)

def AssetUpdateAuthority.encode : AssetUpdateAuthority → List UInt8
  | .none => [0]
  | .address k => 1 :: pubkeyBytes k
  | .collection k => 2 :: pubkeyBytes k

/-- An asset with the plugin for attributes. The bodies of other plugins, and the registry behind
all of them, are any bytes. -/
structure AssetV1 where
  owner : Pubkey
  updateAuthority : AssetUpdateAuthority
  name : List UInt8
  uri : List UInt8
  seq : Option ℕ
  headerKey : UInt8
  pluginRegistryOffset : ℕ
  pluginsBefore : List UInt8
  attributes : List AttributeKv
  pluginsAfter : List UInt8

/-- What comes before the plugin for attributes. -/
def AssetV1.front (asset : AssetV1) : List UInt8 :=
  1 :: (pubkeyBytes asset.owner ++ (asset.updateAuthority.encode ++ (encodeString asset.name ++
    (encodeString asset.uri ++ (encodeOption (leBytes 8) asset.seq ++
      (asset.headerKey :: (leBytes 4 asset.pluginRegistryOffset ++ asset.pluginsBefore)))))))

def AssetV1.encode (asset : AssetV1) : List UInt8 :=
  asset.front ++ (pluginVariantAttributes :: (encodeVec encodeAttribute asset.attributes
    ++ asset.pluginsAfter))

/-! ### Lists of attributes in an account -/

/-- The list is one that the reader takes: not too long, with texts that are not too long, and with
values of the key that are texts. -/
structure Readable (key : List UInt8) (attrs : List AttributeKv) : Prop where
  count : attrs.length ≤ 64
  keys : ∀ a ∈ attrs, a.key.length ≤ 256
  values : ∀ a ∈ attrs, a.value.length ≤ 1024
  utf8 : ∀ a ∈ attrs, a.key = key → Utf8 a.value

/-- The account has this list at a position. -/
def ListAt (data : List UInt8) (p : ℕ) (key : List UInt8) (attrs : List AttributeKv) : Prop :=
  Readable key attrs ∧ ∃ rest, data.drop p = encodeVec encodeAttribute attrs ++ rest

/-- The last value of a key, or `found`. -/
def lastValue (key : List UInt8) (found : Option (List UInt8)) (attrs : List AttributeKv) :
    Option (List UInt8) :=
  attrs.foldl (fun found a => if a.key = key then some a.value else found) found

section

variable {data rest bytes key k : List UInt8} {p q n cap i : ℕ} {attrs attrs' : List AttributeKv}
  {found found' : Option (List UInt8)}

lemma readU32_eq_some : readU32 data p = some n ↔
    n < 256 ^ 4 ∧ ∃ rest, data.drop p = leBytes 4 n ++ rest := by
  unfold readU32
  constructor
  · intro h
    split at h
    · cases h
    · rename_i hlen
      obtain rfl := Option.some.inj h
      have hfour : ((data.drop p).take 4).length = 4 := by
        rw [List.length_take, List.length_drop]
        omega
      refine ⟨(ofLeBytes_lt _).trans_eq (by rw [hfour]), (data.drop p).drop 4, ?_⟩
      have hback := leBytes_ofLeBytes ((data.drop p).take 4)
      rw [hfour] at hback
      rw [hback, List.take_append_drop]
  · rintro ⟨hn, rest, hrest⟩
    have hlen := congrArg List.length hrest
    rw [List.length_drop, List.length_append, leBytes_length] at hlen
    rw [if_neg (by omega), hrest, List.take_left' (leBytes_length 4 n), ofLeBytes_leBytes hn]

lemma readCapped_eq_some (hcap : cap < 256 ^ 4) : readCapped data p cap = some (k, q) ↔
    k.length ≤ cap ∧ q = p + (4 + k.length) ∧ ∃ rest, data.drop p = encodeString k ++ rest := by
  simp only [readCapped, Option.bind_eq_bind, Option.bind_eq_some_iff, readU32_eq_some]
  constructor
  · rintro ⟨n, ⟨hn, rest, hrest⟩, h⟩
    split at h
    · cases h
    · rename_i hfits
      obtain ⟨rfl, rfl⟩ := Prod.mk.inj (Option.some.inj h)
      have hlen : ((data.drop (p + 4)).take n).length = n := by
        rw [List.length_take, List.length_drop]
        omega
      have hdrop : data.drop (p + 4) = rest := by
        rw [← List.drop_drop, hrest, List.drop_left' (leBytes_length 4 n)]
      refine ⟨by omega, by omega, rest.drop n, ?_⟩
      rw [encodeString, hlen, hrest, hdrop, List.append_assoc, List.take_append_drop]
  · rintro ⟨hk, rfl, rest, hrest⟩
    rw [encodeString, List.append_assoc] at hrest
    have hlen := congrArg List.length hrest
    simp only [List.length_drop, List.length_append, leBytes_length] at hlen
    refine ⟨k.length, ⟨by omega, _, hrest⟩, ?_⟩
    have hdrop : data.drop (p + 4) = k ++ rest := by
      rw [← List.drop_drop, hrest, List.drop_left' (leBytes_length 4 _)]
    rw [if_neg (by omega), hdrop, List.take_left, Nat.add_assoc]

lemma drop_of_eq (h : data.drop p = bytes ++ rest) : data.drop (p + bytes.length) = rest := by
  rw [← List.drop_drop, h, List.drop_left]

lemma fromUtf8_eq_some : fromUtf8 bytes = some k ↔
    Utf8 bytes ∧ k = bytes := by
  unfold fromUtf8
  split <;> simp_all [eq_comm]

/-- What the reader reads is a list of readable attributes, and it reads each such list. -/
lemma tryParseEntries_eq_some : tryParseEntries data key n p found = some found' ↔
    ∃ attrs, attrs.length = n ∧ (∀ a ∈ attrs, a.key.length ≤ 256) ∧
      (∀ a ∈ attrs, a.value.length ≤ 1024) ∧
      (∀ a ∈ attrs, a.key = key → Utf8 a.value) ∧
      (∃ rest, data.drop p = attrs.flatMap encodeAttribute ++ rest) ∧
      found' = lastValue key found attrs := by
  induction n generalizing p found with
  | zero =>
    constructor
    · intro h
      obtain rfl := Option.some.inj h
      exact ⟨[], rfl, by simp, by simp, by simp, ⟨_, rfl⟩, rfl⟩
    · rintro ⟨attrs, hlen, -, -, -, -, rfl⟩
      rw [List.length_eq_zero_iff.mp hlen]
      rfl
  | succ n ih =>
    simp only [tryParseEntries, Option.bind_eq_bind, Option.bind_eq_some_iff, Prod.exists,
      readCapped_eq_some (show 256 < 256 ^ 4 by norm_num),
      readCapped_eq_some (show 1024 < 256 ^ 4 by norm_num), ih]
    constructor
    · rintro ⟨k, _, ⟨hk, rfl, rest, hrest⟩, v, _, ⟨hv, rfl, rest', hrest'⟩, mid, hmid, attrs, hlen,
        hkeys, hvalues, hutf8, ⟨rest'', hrest''⟩, rfl⟩
      have hk' := drop_of_eq hrest
      rw [encodeString_length] at hk'
      have hv' := drop_of_eq hrest'
      rw [encodeString_length] at hv'
      have hmid' : (k = key → Utf8 v) ∧
          mid = if k = key then some v else found := by
        unfold foundAfter at hmid
        split at hmid
        · rename_i hkey
          obtain ⟨v', hv', rfl⟩ := Option.map_eq_some_iff.mp hmid
          obtain ⟨hvalid, rfl⟩ := fromUtf8_eq_some.mp hv'
          exact ⟨fun _ => hvalid, by rw [if_pos hkey]⟩
        · rename_i hkey
          obtain rfl := Option.some.inj hmid
          exact ⟨fun h => absurd h hkey, by rw [if_neg hkey]⟩
      refine ⟨⟨k, v⟩ :: attrs, by rw [List.length_cons, hlen], List.forall_mem_cons.mpr ⟨hk, hkeys⟩,
        List.forall_mem_cons.mpr ⟨hv, hvalues⟩, List.forall_mem_cons.mpr ⟨hmid'.1, hutf8⟩,
        ⟨rest'', ?_⟩, ?_⟩
      · rw [hrest, ← hk', hrest', ← hv', hrest'', List.flatMap_cons, encodeAttribute]
        simp only [List.append_assoc]
      · rw [hmid'.2]
        rfl
    · rintro ⟨attrs, hlen, hkeys, hvalues, hutf8, ⟨rest, hrest⟩, rfl⟩
      obtain ⟨a, attrs, rfl⟩ : ∃ a attrs', attrs = a :: attrs' := by
        cases attrs with
        | nil => cases hlen
        | cons a attrs => exact ⟨a, attrs, rfl⟩
      obtain ⟨hk, hkeys⟩ := List.forall_mem_cons.mp hkeys
      obtain ⟨hv, hvalues⟩ := List.forall_mem_cons.mp hvalues
      obtain ⟨hu, hutf8⟩ := List.forall_mem_cons.mp hutf8
      rw [List.flatMap_cons, encodeAttribute, List.append_assoc, List.append_assoc] at hrest
      have hk' := drop_of_eq hrest
      have hv' := drop_of_eq hk'
      rw [encodeString_length] at hk' hv'
      rw [encodeString_length] at hv'
      refine ⟨a.key, _, ⟨hk, rfl, _, hrest⟩, a.value, _, ⟨hv, rfl, _, hk'⟩,
        if a.key = key then some a.value else found, ?_, attrs, by simpa using hlen, hkeys, hvalues,
        hutf8, ⟨_, hv'⟩, rfl⟩
      unfold foundAfter
      split
      · rename_i hkey
        rw [fromUtf8_eq_some.mpr ⟨hu hkey, rfl⟩]
        rfl
      · rfl

lemma tryParseAttributesAt_eq_some : tryParseAttributesAt data p key = some found ↔
    ∃ attrs, ListAt data p key attrs ∧ found = lastValue key none attrs := by
  simp only [tryParseAttributesAt, Option.bind_eq_bind, Option.bind_eq_some_iff, readU32_eq_some]
  constructor
  · rintro ⟨count, ⟨-, rest, hrest⟩, h⟩
    split at h
    · cases h
    · rename_i hcount
      obtain ⟨attrs, rfl, hkeys, hvalues, hutf8, ⟨rest', hrest'⟩, rfl⟩ :=
        tryParseEntries_eq_some.mp h
      have hdrop := drop_of_eq hrest
      rw [leBytes_length] at hdrop
      refine ⟨attrs, ⟨⟨by omega, hkeys, hvalues, hutf8⟩, rest', ?_⟩, rfl⟩
      rw [encodeVec, hrest, ← hdrop, hrest', List.append_assoc]
  · rintro ⟨attrs, ⟨⟨hcount, hkeys, hvalues, hutf8⟩, rest, hrest⟩, rfl⟩
    rw [encodeVec, List.append_assoc] at hrest
    have hdrop := drop_of_eq hrest
    rw [leBytes_length] at hdrop
    refine ⟨attrs.length, ⟨by omega, _, hrest⟩, ?_⟩
    rw [if_neg (by omega)]
    exact tryParseEntries_eq_some.mpr ⟨attrs, rfl, hkeys, hvalues, hutf8, ⟨rest, hdrop⟩, rfl⟩

/-! ### The list that the reader stops at -/

/-- The first byte 6 that a readable list follows. -/
structure FirstList (data key : List UInt8) (i : ℕ) (attrs : List AttributeKv) : Prop where
  pos : 1 ≤ i
  tag : data.getD i 0 = pluginVariantAttributes
  list : ListAt data (i + 1) key attrs
  first : ∀ j, 1 ≤ j → j < i → data.getD j 0 = pluginVariantAttributes → ∀ attrs',
    ¬ ListAt data (j + 1) key attrs'

lemma ListAt.length_le (h : ListAt data p key attrs) : p + 4 ≤ data.length := by
  obtain ⟨-, rest, hrest⟩ := h
  have hlen := congrArg List.length hrest
  simp only [encodeVec, List.length_drop, List.length_append, leBytes_length] at hlen
  omega

lemma tryParseAttributesAt_eq_none : tryParseAttributesAt data p key = none ↔
    ∀ attrs, ¬ ListAt data p key attrs := by
  constructor
  · intro h attrs hlist
    have hread := tryParseAttributesAt_eq_some.mpr ⟨attrs, hlist, rfl⟩
    rw [h] at hread
    cases hread
  · intro h
    cases hread : tryParseAttributesAt data p key with
    | none => rfl
    | some found =>
      obtain ⟨attrs, hlist, -⟩ := tryParseAttributesAt_eq_some.mp hread
      exact absurd hlist (h attrs)

/-- What the scan finds at a place. -/
def scanAt (data key : List UInt8) (i : ℕ) : Option (Option (List UInt8)) :=
  if data.getD i 0 = pluginVariantAttributes then tryParseAttributesAt data (i + 1) key else none

lemma scanAt_eq_none : scanAt data key i = none ↔
    (data.getD i 0 = pluginVariantAttributes → ∀ attrs, ¬ ListAt data (i + 1) key attrs) := by
  unfold scanAt
  split
  · rename_i htag
    rw [tryParseAttributesAt_eq_none]
    exact ⟨fun h _ => h, fun h => h htag⟩
  · rename_i htag
    exact ⟨fun _ h => absurd h htag, fun _ => rfl⟩

lemma FirstList.read (h : FirstList data key i attrs) :
    readExistingAttribute data key = lastValue key none attrs := by
  have hlen := h.list.length_le
  have hat : scanAt data key i = some (lastValue key none attrs) := by
    rw [scanAt, if_pos h.tag]
    exact tryParseAttributesAt_eq_some.mpr ⟨attrs, h.list, rfl⟩
  have hscan : (List.range' 1 (data.length - 5)).findSome? (scanAt data key)
      = some (lastValue key none attrs) := by
    refine List.findSome?_eq_some_iff.mpr
      ⟨List.range' 1 (i - 1), i, List.range' (i + 1) (data.length - 5 - i), ?_, hat, ?_⟩
    · have hsplit : data.length - 5 = (i - 1) + (1 + (data.length - 5 - i)) := by
        have := h.pos
        omega
      have hi : 1 + (i - 1) = i := by
        have := h.pos
        omega
      rw [hsplit, ← List.range'_append_1, hi, Nat.add_comm 1, List.range'_succ]
      congr 3
      omega
    · intro j hj
      have hrange := List.mem_range'_1.mp hj
      exact scanAt_eq_none.mpr (h.first j hrange.1 (by omega))
  exact congrArg Option.join hscan

lemma read_of_no_list (h : ∀ i attrs, ¬ FirstList data key i attrs) :
    readExistingAttribute data key = none := by
  have hnone : ∀ i, 1 ≤ i → scanAt data key i = none := by
    intro i
    induction i using Nat.strong_induction_on with
    | _ i ih =>
      intro hpos
      refine scanAt_eq_none.mpr fun htag attrs hlist => h i attrs ⟨hpos, htag, hlist, ?_⟩
      exact fun j hj hlt => scanAt_eq_none.mp (ih j hlt hj)
  have hscan : (List.range' 1 (data.length - 5)).findSome? (scanAt data key) = none :=
    List.findSome?_eq_none_iff.mpr fun j hj => hnone j (List.mem_range'_1.mp hj).1
  exact congrArg Option.join hscan

lemma lastValue_append : lastValue key found (attrs ++ attrs')
    = lastValue key (lastValue key found attrs) attrs' := List.foldl_append

lemma lastValue_eq_some {v : List UInt8} (h : lastValue key none attrs = some v) :
    ⟨key, v⟩ ∈ attrs := by
  induction attrs using List.reverseRecOn with
  | nil => cases h
  | append_singleton attrs a ih =>
    rw [lastValue_append] at h
    by_cases hkey : a.key = key
    · obtain rfl : a.value = v := by
        rw [lastValue, List.foldl_cons, if_pos hkey] at h
        exact Option.some.inj h
      rw [← hkey]
      exact List.mem_append_right _ (List.mem_singleton_self a)
    · rw [lastValue, List.foldl_cons, if_neg hkey] at h
      exact List.mem_append_left _ (ih h)

lemma lastValue_eq_none (h : lastValue key none attrs = none) (v : List UInt8) :
    ⟨key, v⟩ ∉ attrs := by
  induction attrs using List.reverseRecOn with
  | nil => exact List.not_mem_nil
  | append_singleton attrs a ih =>
    rw [lastValue_append] at h
    by_cases hkey : a.key = key
    · rw [lastValue, List.foldl_cons, if_pos hkey] at h
      cases h
    · rw [lastValue, List.foldl_cons, if_neg hkey] at h
      intro hmem
      rcases List.mem_append.mp hmem with hmem | hmem
      · exact ih h hmem
      · obtain rfl := List.mem_singleton.mp hmem
        exact hkey rfl

end

/-! ### The trait is kept -/

/-- The asset has the trait `ANT Program` with this value. -/
def AssetV1.HasTrait (asset : AssetV1) (v : List UInt8) : Prop :=
  ⟨traitKeyAntProgram, v⟩ ∈ asset.attributes

/-- The list that is sent has the trait just when the asset has it, with a value that the asset has,
and beside it the canonical traits and nothing else. -/
structure Kept (canonical : List AttributeKv) (asset : AssetV1) (sent : List AttributeKv) :
    Prop where
  others : sent.filter (fun a => a.key ≠ traitKeyAntProgram) = canonical
  present : (∃ v, ⟨traitKeyAntProgram, v⟩ ∈ sent) ↔ ∃ v, asset.HasTrait v
  same : ∀ v, ⟨traitKeyAntProgram, v⟩ ∈ sent → asset.HasTrait v

/-- The asset has this value of the trait, or has no such trait. -/
def AssetV1.Agrees (asset : AssetV1) (o : Option (List UInt8)) : Prop :=
  (∀ v, o = some v → asset.HasTrait v) ∧ (o = none → ∀ v, ¬ asset.HasTrait v)

/-- The first list in the account agrees with the asset; without a list the asset has no such
trait. -/
structure AssetV1.Legible (asset : AssetV1) : Prop where
  first : ∀ i attrs, FirstList asset.encode traitKeyAntProgram i attrs →
    asset.Agrees (lastValue traitKeyAntProgram none attrs)
  none : (∀ i attrs, ¬ FirstList asset.encode traitKeyAntProgram i attrs) → asset.Agrees none

/-- The reader takes the asset's list, and finds none before it. -/
structure AssetV1.Clean (asset : AssetV1) : Prop where
  readable : Readable traitKeyAntProgram asset.attributes
  front : ∀ j, 1 ≤ j → j < asset.front.length →
    asset.encode.getD j 0 = pluginVariantAttributes →
      ∀ attrs, ¬ ListAt asset.encode (j + 1) traitKeyAntProgram attrs

/-- The arguments of the call, in Borsh. -/
def attributeCodec : Codec AttributeKv :=
  (Codec.string.pair Codec.string).record (fun a => ⟨a.1, a.2⟩) (fun a => (a.key, a.value))
    (fun _ => rfl) (fun _ => rfl)

def updateAttributesArgs : Codec (ℕ × ℕ × List AttributeKv) :=
  (Codec.word 1).pair ((Codec.word 1).pair attributeCodec.vec)

section

variable {asset : AssetV1} {record : ArnsRecord} {canonical attrs : List AttributeKv}
  {o : Option (List UInt8)} {env : SyncEnv} {key signer : Pubkey} {data name : List UInt8}
  {info : RecordInfo} {call : UpdatePluginV1}

lemma mem_antProgramTrait {v : List UInt8} :
    ⟨traitKeyAntProgram, v⟩ ∈ antProgramTrait o ↔ o = some v := by
  cases o with
  | none => simp [antProgramTrait]
  | some w => simp [antProgramTrait, eq_comm]

lemma kept_iff (hcanonical : ∀ a ∈ canonical, a.key ≠ traitKeyAntProgram) :
    Kept canonical asset (canonical ++ antProgramTrait o) ↔ asset.Agrees o := by
  have hmem : ∀ v, ⟨traitKeyAntProgram, v⟩ ∈ canonical ++ antProgramTrait o ↔ o = some v := by
    intro v
    rw [List.mem_append, mem_antProgramTrait]
    exact or_iff_right fun h => hcanonical _ h rfl
  constructor
  · intro h
    refine ⟨fun v hv => h.same v ((hmem v).mpr hv), fun hnone v hv => ?_⟩
    obtain ⟨w, hw⟩ := h.present.mpr ⟨v, hv⟩
    rw [hmem, hnone] at hw
    cases hw
  · rintro ⟨hsome, hnone⟩
    refine ⟨?_, ⟨fun ⟨v, hv⟩ => ⟨v, hsome v ((hmem v).mp hv)⟩, fun ⟨v, hv⟩ => ?_⟩,
      fun v hv => hsome v ((hmem v).mp hv)⟩
    · have htrait : (antProgramTrait o).filter (fun a => a.key ≠ traitKeyAntProgram) = [] := by
        cases o <;> simp [antProgramTrait]
      rw [List.filter_append, htrait, List.append_nil]
      exact List.filter_eq_self.mpr fun a ha => decide_eq_true (hcanonical a ha)
    · cases o with
      | none => exact absurd hv (hnone rfl v)
      | some w => exact ⟨w, (hmem w).mpr rfl⟩

lemma canonicalTraits_key (record : ArnsRecord) :
    ∀ a ∈ canonicalTraits record, a.key ≠ traitKeyAntProgram := by
  have hkeys : ∀ k ∈ [traitKeyArnsName, traitKeyType, traitKeyUndernameLimit],
      k ≠ traitKeyAntProgram := by decide +kernel
  intro a ha
  refine hkeys _ ?_
  simp only [canonicalTraits, List.mem_cons, List.not_mem_nil, or_false] at ha ⊢
  rcases ha with rfl | rfl | rfl
  · exact .inl rfl
  · exact .inr (.inl rfl)
  · exact .inr (.inr rfl)

lemma agrees_read_iff :
    asset.Agrees (readExistingAttribute asset.encode traitKeyAntProgram) ↔ asset.Legible := by
  constructor
  · refine fun h => ⟨fun i attrs hfirst => ?_, fun hno => ?_⟩
    · rwa [hfirst.read] at h
    · rwa [read_of_no_list hno] at h
  · intro h
    by_cases hno : ∀ i attrs, ¬ FirstList asset.encode traitKeyAntProgram i attrs
    · rw [read_of_no_list hno]
      exact h.none hno
    · push Not at hno
      obtain ⟨i, attrs, hfirst⟩ := hno
      rw [hfirst.read]
      exact h.first i attrs hfirst

lemma AssetV1.Clean.legible (h : asset.Clean) : asset.Legible := by
  have hlist : ListAt asset.encode (asset.front.length + 1) traitKeyAntProgram
      asset.attributes := by
    refine ⟨h.readable, asset.pluginsAfter, ?_⟩
    rw [← List.drop_drop, AssetV1.encode, List.drop_left]
    rfl
  have htag : asset.encode.getD asset.front.length 0 = pluginVariantAttributes := by
    simp [AssetV1.encode]
  have hown : FirstList asset.encode traitKeyAntProgram asset.front.length asset.attributes :=
    ⟨by simp [AssetV1.front], htag, hlist, h.front⟩
  have hagrees : asset.Agrees (lastValue traitKeyAntProgram none asset.attributes) :=
    ⟨fun v hv => lastValue_eq_some hv, fun hnone v => lastValue_eq_none hnone v⟩
  refine ⟨fun i attrs hfirst => ?_, fun hno => absurd hown (hno _ _)⟩
  have hsame : lastValue traitKeyAntProgram none attrs
      = lastValue traitKeyAntProgram none asset.attributes := by
    rw [← hfirst.read, hown.read]
  rwa [hsame]

lemma syncAttributesHandler_ok
    (h : syncAttributesHandler env key signer data info name = .ok call) :
    ∃ record, info.record = some record ∧ record.ant = key ∧
      call.attributes = buildAttributeList record
          (readExistingAttribute data traitKeyAntProgram) := by
  unfold syncAttributesHandler at h
  obtain ⟨_, -, h⟩ := bind_eq_ok.mp h
  obtain ⟨_, -, h⟩ := bind_eq_ok.mp h
  obtain ⟨_, -, h⟩ := bind_eq_ok.mp h
  obtain ⟨_, -, h⟩ := bind_eq_ok.mp h
  obtain ⟨record, hrecord, h⟩ := bind_eq_ok.mp h
  obtain ⟨_, hant, h⟩ := bind_eq_ok.mp h
  exact ⟨record, okOr_eq_ok.mp hrecord, require_eq_ok.mp hant, by rw [← Except.ok.inj h]⟩

lemma clearAttributesHandler_ok (h : clearAttributesHandler env key signer data = .ok call) :
    call.attributes = antProgramTrait (readExistingAttribute data traitKeyAntProgram) := by
  unfold clearAttributesHandler at h
  obtain ⟨_, -, h⟩ := bind_eq_ok.mp h
  obtain ⟨_, -, h⟩ := bind_eq_ok.mp h
  obtain ⟨_, -, h⟩ := bind_eq_ok.mp h
  rw [← Except.ok.inj h]

lemma updateAttributesArgs_decode (hlen : attrs.length < 256 ^ 4)
    (htexts : ∀ a ∈ attrs, attributeCodec.Valid a) :
    updateAttributesArgs.decode (encodeUpdateAttributesIxData attrs) = some
        ((6, 6, attrs), []) := by
  have hvalid : updateAttributesArgs.Valid (6, 6, attrs) :=
    ⟨by unfold Codec.word; norm_num, by unfold Codec.word; norm_num, hlen, htexts⟩
  have htag : leBytes 1 6 = [6] := by decide
  have henc : updateAttributesArgs.encode (6, 6, attrs) = encodeUpdateAttributesIxData attrs := by
    change leBytes 1 6 ++ (leBytes 1 6 ++ encodeVec encodeAttribute attrs) = _
    rw [htag]
    rfl
  rw [← henc, ← List.append_nil (updateAttributesArgs.encode _)]
  exact updateAttributesArgs.decode_encode hvalid []

end

/-- **The trait is kept.** A call keeps the trait `ANT Program` if and only if the asset is legible,
which it is when the first readable list in its account is the one of its plugin. The arguments of
the call are read back as the list. -/
theorem trait_kept_iff (env : SyncEnv) (asset : AssetV1) :
    (∀ key payer info name call,
      syncAttributesHandler env key payer asset.encode info name = .ok call →
      ∃ record, info.record = some record ∧
        (Kept (canonicalTraits record) asset call.attributes ↔ asset.Legible)) ∧
    (∀ key authority call, clearAttributesHandler env key authority asset.encode = .ok call →
      (Kept [] asset call.attributes ↔ asset.Legible)) ∧
    (asset.Clean → asset.Legible) ∧
    (∀ attrs : List AttributeKv, attrs.length < 256 ^ 4 →
      (∀ a ∈ attrs, attributeCodec.Valid a) →
        updateAttributesArgs.decode (encodeUpdateAttributesIxData attrs) = some
            ((6, 6, attrs), [])) := by
  refine ⟨fun key payer info name call h => ?_, fun key authority call h => ?_,
    fun h => h.legible, fun attrs hlen htexts => updateAttributesArgs_decode hlen htexts⟩
  · obtain ⟨record, hrecord, -, hcall⟩ := syncAttributesHandler_ok h
    refine ⟨record, hrecord, ?_⟩
    rw [hcall, buildAttributeList, kept_iff (canonicalTraits_key record), agrees_read_iff]
  · rw [clearAttributesHandler_ok h, ← List.nil_append (antProgramTrait _), kept_iff (by simp),
      agrees_read_iff]

namespace SmallAsset

def env : SyncEnv where
  sha256 _ := .replicate 32 0
  toLowercase name := name
  arnsProgram := ⟨9⟩
  arnsRecordAddress _ := ⟨8⟩
  antAuthority _ := ⟨7⟩

/-- An asset that the program signs for, with two attributes. -/
def clean : AssetV1 where
  owner := ⟨1⟩
  updateAuthority := .address ⟨7⟩
  name := ascii "ANT"
  uri := ascii "ar://x"
  seq := none
  headerKey := 3
  pluginRegistryOffset := 200
  pluginsBefore := []
  attributes := [⟨ascii "Type", ascii "lease"⟩, ⟨traitKeyAntProgram, ascii "P"⟩]
  pluginsAfter := []

/-- The same asset, with a name in which a byte 6 and an empty list stand. -/
def clashing : AssetV1 := { clean with name := [6, 0, 0, 0, 0] }

lemma clean_clean : clean.Clean := by
  have hreadable : clean.attributes.length ≤ 64 ∧ (∀ a ∈ clean.attributes, a.key.length ≤ 256) ∧
      (∀ a ∈ clean.attributes, a.value.length ≤ 1024) ∧
      ∀ a ∈ clean.attributes, a.key = traitKeyAntProgram → Utf8 a.value := by decide +kernel
  have hfront : ∀ j < clean.front.length, scanAt clean.encode traitKeyAntProgram j = none := by
    decide +kernel
  exact ⟨⟨hreadable.1, hreadable.2.1, hreadable.2.2.1, hreadable.2.2.2⟩,
    fun j _ hj => scanAt_eq_none.mp (hfront j hj)⟩

end SmallAsset

open SmallAsset in
theorem trait_kept_iff_small :
    (∃ call, clearAttributesHandler env ⟨2⟩ ⟨1⟩ clean.encode = .ok call ∧
      Kept [] clean call.attributes) ∧
    updateAttributesArgs.decode (encodeUpdateAttributesIxData clean.attributes)
      = some ((6, 6, clean.attributes), []) := by
  have htexts : ∀ a ∈ clean.attributes, attributeCodec.Valid a := by
    intro a ha
    have hutf8 : ∀ a ∈ clean.attributes, (a.key.length < 256 ^ 4 ∧ Utf8 a.key) ∧
        (a.value.length < 256 ^ 4 ∧ Utf8 a.value) := by decide +kernel
    exact hutf8 a ha
  obtain ⟨-, hclear, hlegible, hread⟩ := trait_kept_iff env clean
  have hok : (clearAttributesHandler env ⟨2⟩ ⟨1⟩ clean.encode).isOk = true := by decide +kernel
  cases hcall : clearAttributesHandler env ⟨2⟩ ⟨1⟩ clean.encode with
  | error e =>
    rw [hcall] at hok
    cases hok
  | ok call =>
    exact ⟨⟨call, rfl, (hclear _ _ _ hcall).mpr (hlegible clean_clean)⟩,
      hread clean.attributes (by decide) htexts⟩

open SmallAsset in
/-- A name with the bytes 6, 0, 0, 0, 0 hides the trait, and the instructions drop it. -/
theorem trait_dropped :
    clashing.HasTrait (ascii "P") ∧
    (clearAttributesHandler env ⟨2⟩ ⟨1⟩ clean.encode).map (·.attributes)
      = .ok [⟨traitKeyAntProgram, ascii "P"⟩] ∧
    (clearAttributesHandler env ⟨2⟩ ⟨1⟩ clashing.encode).map (·.attributes) = .ok [] ∧
    readExistingAttribute clashing.encode traitKeyAntProgram = none := by
  have hclean : (clearAttributesHandler env ⟨2⟩ ⟨1⟩ clean.encode).map (·.attributes)
      = .ok [⟨traitKeyAntProgram, ascii "P"⟩] := by
    decide +kernel
  have hclashing : (clearAttributesHandler env ⟨2⟩ ⟨1⟩ clashing.encode).map (·.attributes)
      = .ok [] := by
    decide +kernel
  exact ⟨by unfold AssetV1.HasTrait; decide, hclean, hclashing, by decide +kernel⟩

end Ant
end ArioSolana
