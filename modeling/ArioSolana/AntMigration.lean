import Mathlib.Data.List.GetD
import ArioSolana.AntLayouts

/-!
# Migration to versions

Accounts that are older than schema versions are three bytes shorter. A migration grows such an
account by zeros and reads the version behind the fields: but the zeros are at the end of the
account, and behind the fields may be what an earlier and longer value has left. The migration works
exactly when these three bytes are zeros. -/

namespace ArioSolana
namespace Ant

open Checked Solana Borsh Anchor

/-! ### Migrations -/

/-- The marks of the types of accounts. -/
structure Discriminators where
  antConfig : Vector UInt8 8
  antControllers : Vector UInt8 8
  antRecord : Vector UInt8 8
  antRecordMetadata : Vector UInt8 8
  aclPage : Vector UInt8 8

def versionedLayout {β : Type} (disc : Vector UInt8 8) (c : Codec β) : Layout (Versioned β) :=
  ⟨disc, Versioned.codec c⟩

def antConfigLayout (d : Discriminators) := versionedLayout d.antConfig antConfigCodec

def antControllersLayout (d : Discriminators) := versionedLayout d.antControllers
    antControllersCodec

def antRecordLayout (d : Discriminators) := versionedLayout d.antRecord antRecordCodec

def antRecordMetadataLayout (d : Discriminators) :=
  versionedLayout d.antRecordMetadata antRecordMetadataCodec

def aclPageLayout (d : Discriminators) := versionedLayout d.aclPage aclPageCodec

/-- The version after the loop of each `migrate_*_version`: its only arm stamps the current version,
which ends it. -/
def migrateVersion (version : SchemaVersion) : Except AccountError SchemaVersion :=
  if version.lt currentVersion then
    if version = ⟨0, 0, 0⟩ then .ok ⟨1, 0, 0⟩ else .error .unknownSchemaVersion
  else .ok version

section

variable {β : Type} {c : Codec β} {disc : Vector UInt8 8} {b : β} {data stale rest : List UInt8}
  {size : ℕ} {Within : β → Prop}

def writeMigrated (L : Layout (Versioned β)) (account : Versioned β) (data : List UInt8) :
    Except AccountError (List UInt8) := do
  let version ← migrateVersion account.version
  L.writeAccount ⟨account.fields, version⟩ data

/-- Migrate an account that can be read in the new layout. -/
def migrateRead (L : Layout (Versioned β)) (data : List UInt8) :
    Except AccountError (List UInt8) := do
  let account ← L.tryDeserialize data
  require (account.version.lt currentVersion) .alreadyLatestVersion
  writeMigrated L account data

def migrateAccount (L : Layout (Versioned β)) (size : ℕ) (data : List UInt8) :
    Except AccountError (List UInt8) :=
  migrateRead L (growAccount size data)

/-- Migrate one of two accounts, if it needs it. -/
def migrateIfNeeded (L : Layout (Versioned β)) (account : Versioned β) (data : List UInt8) :
    Except AccountError (List UInt8) :=
  if account.version.lt currentVersion then writeMigrated L account data else .ok data

def migrateAnt (d : Discriminators) (configData controllersData : List UInt8) :
    Except AccountError (List UInt8 × List UInt8) := do
  let configData := growAccount antConfigSize configData
  let config ← (antConfigLayout d).tryDeserialize configData
  let controllersData := growAccount antControllersSize controllersData
  let controllers ← (antControllersLayout d).tryDeserialize controllersData
  require (config.version.lt currentVersion ∨ controllers.version.lt currentVersion)
    .alreadyLatestVersion
  let configData ← migrateIfNeeded (antConfigLayout d) config configData
  let controllersData ← migrateIfNeeded (antControllersLayout d) controllers controllersData
  return (configData, controllersData)

def migrateAntRecord (d : Discriminators) : List UInt8 → Except AccountError (List UInt8) :=
  migrateAccount (antRecordLayout d) antRecordSize

def migrateAntRecordMetadata (d : Discriminators) :
    List UInt8 → Except AccountError (List UInt8) :=
  migrateAccount (antRecordMetadataLayout d) antRecordMetadataSize

/-- A page grows when it cannot be read. -/
def migrateAclPage (d : Discriminators) (data : List UInt8) : Except AccountError (List UInt8) :=
  let needsGrow := ¬ ((aclPageLayout d).tryDeserialize data).isOk
  migrateRead (aclPageLayout d)
    (if needsGrow then growAccount (data.length + schemaVersionSize) data else data)

/-- The data of a page after `resync_page_size`. -/
def resyncPageData (entryCount : ℕ) (data : List UInt8) : List UInt8 :=
  growAccount (AclPage.sizeFor entryCount) data

/-! ### Accounts before versions -/

/-- An account without a version: its fields, and what is left of earlier values. -/
def unversioned (disc : Vector UInt8 8) (c : Codec β) (b : β) (stale : List UInt8) : List UInt8 :=
  disc.toList ++ (c.encode b ++ stale)

/-- The version that is read there. -/
def staleVersion (stale : List UInt8) : SchemaVersion :=
  ⟨(stale.getD 0 0).toNat, (stale.getD 1 0).toNat, (stale.getD 2 0).toNat⟩

/-- An account into which values were written one over the other. -/
def rewritten (disc : Vector UInt8 8) (c : Codec β) (length : ℕ) (values : List β) : List UInt8 :=
  values.foldl (fun data b =>
    disc.toList ++ c.encode b ++ data.drop (disc.toList ++ c.encode b).length)
    (List.replicate length 0)

/-- There is room for every value within the limits. -/
def Room (L : Layout (Versioned β)) (Within : β → Prop) (data : List UInt8) : Prop :=
  ∀ b, Within b → ∃ data', L.writeAccount ⟨b, currentVersion⟩ data = .ok data'

/-- A migration succeeds, keeps the fields, stamps the current version and leaves room; and a second
one fails. -/
def MigratesOnce (migrate : List UInt8 → Except AccountError (List UInt8))
    (L : Layout (Versioned β))
    (b : β) (room : List UInt8 → Prop) (data : List UInt8) : Prop :=
  ∃ data', migrate data = .ok data' ∧ L.tryDeserialize data' = .ok ⟨b, currentVersion⟩ ∧
    room data' ∧ ∃ e, migrate data' = .error e

/-- What a page has room for: pages with no more entries as it is, and others after its size was
adjusted. -/
def PageRoom (d : Discriminators) (page : AclPageFields) (data : List UInt8) : Prop :=
  Room (aclPageLayout d) (fun p => p.WithinLimits ∧ p.entries.length ≤ page.entries.length) data ∧
  ∀ n, Room (aclPageLayout d) (fun p => p.WithinLimits ∧ p.entries.length = n)
    (resyncPageData n data)

/-- The migration of both accounts of an asset. -/
def AntMigratesOnce (d : Discriminators) (config : AntConfigFields) (list : AntControllersFields)
    (configData controllersData : List UInt8) : Prop :=
  ∃ configData' controllersData', migrateAnt d configData controllersData
      = .ok (configData', controllersData') ∧
    (antConfigLayout d).tryDeserialize configData' = .ok ⟨config, currentVersion⟩ ∧
    (antControllersLayout d).tryDeserialize controllersData' = .ok ⟨list, currentVersion⟩ ∧
    Room (antConfigLayout d) AntConfigFields.WithinLimits configData' ∧
    Room (antControllersLayout d) AntControllersFields.WithinLimits controllersData' ∧
    ∃ e, migrateAnt d configData' controllersData' = .error e

/-! ### Reading the version -/

lemma versioned_encode (v : SchemaVersion) : (versionedLayout disc c).encode ⟨b, v⟩
    = disc.toList ++ (c.encode b ++
      (leBytes 1 v.major ++ (leBytes 1 v.minor ++ leBytes 1 v.patch))) := rfl

lemma versioned_encode_length (v : SchemaVersion) :
    ((versionedLayout disc c).encode ⟨b, v⟩).length = 8 + (c.encode b).length + 3 := by
  simp only [versioned_encode, List.length_append, Vector.length_toList, leBytes_length]
  omega

lemma leBytes_toNat (x : UInt8) : leBytes 1 x.toNat = [x] := by
  have hx := x.toNat_lt
  rw [leBytes_succ, leBytes_zero, Nat.mod_eq_of_lt hx, UInt8.ofNat_toNat]

lemma unversioned_eq (h : 3 ≤ stale.length) : unversioned disc c b stale
    = (versionedLayout disc c).encode ⟨b, staleVersion stale⟩ ++ stale.drop 3 := by
  obtain ⟨x, l, rfl⟩ := List.exists_cons_of_length_pos (show 0 < stale.length by omega)
  rw [List.length_cons] at h
  obtain ⟨y, m, rfl⟩ := List.exists_cons_of_length_pos (show 0 < l.length by omega)
  rw [List.length_cons] at h
  obtain ⟨z, rest, rfl⟩ := List.exists_cons_of_length_pos (show 0 < m.length by omega)
  have hversion : staleVersion (x :: y :: z :: rest) = ⟨x.toNat, y.toNat, z.toNat⟩ := rfl
  rw [versioned_encode, hversion]
  simp only [leBytes_toNat]
  simp [unversioned]

lemma staleVersion_valid (stale : List UInt8) : versionCodec.Valid (staleVersion stale) :=
  ⟨UInt8.toNat_lt _, UInt8.toNat_lt _, UInt8.toNat_lt _⟩

lemma unversioned_read (hb : c.Valid b) (h : 3 ≤ stale.length) :
    (versionedLayout disc c).tryDeserialize (unversioned disc c b stale)
      = .ok ⟨b, staleVersion stale⟩ :=
  Layout.tryDeserialize_eq_ok.mpr ⟨⟨hb, staleVersion_valid stale⟩, _, unversioned_eq h⟩

lemma unversioned_not_read (hb : c.Valid b) {a : Versioned β} :
    (versionedLayout disc c).tryDeserialize (unversioned disc c b []) ≠ .ok a := by
  intro h
  obtain ⟨⟨ha, -⟩, rest, heq⟩ := Layout.tryDeserialize_eq_ok.mp h
  rw [versioned_encode, List.append_assoc, List.append_assoc, unversioned] at heq
  obtain ⟨-, hnil⟩ := c.encode_inj hb ha (List.append_cancel_left heq)
  have hlen := congrArg List.length hnil
  simp only [List.length_nil, List.length_append, leBytes_length] at hlen
  omega

lemma unversioned_grow (h : (unversioned disc c b stale).length + 3 = size) :
    growAccount size (unversioned disc c b stale)
      = unversioned disc c b (stale ++ List.replicate 3 0) := by
  rw [growAccount_append h]
  simp [unversioned]

lemma staleVersion_append (stale : List UInt8) :
    staleVersion (stale ++ List.replicate 3 0) = staleVersion stale := by
  have hbyte : ∀ i < 3, (stale ++ List.replicate 3 0).getD i 0 = stale.getD i 0 := by
    intro i hi
    by_cases hlt : i < stale.length
    · rw [List.getD_append _ _ _ _ hlt]
    · rw [List.getD_append_right _ _ _ _ (by omega), List.getD_eq_default stale _ (by omega),
        List.getD_replicate]
      omega
  unfold staleVersion
  rw [hbyte 0 (by omega), hbyte 1 (by omega), hbyte 2 (by omega)]

/-- Whatever was written before, an account has the fields that were written last, and behind them
what is left. -/
lemma rewritten_append {length : ℕ} (values : List β)
    (hfits : ∀ b' ∈ values ++ [b], 8 + (c.encode b').length ≤ length) :
    (rewritten disc c length (values ++ [b])).length = length ∧
    ∃ stale, rewritten disc c length (values ++ [b]) = unversioned disc c b stale := by
  have hkeep : ∀ (values : List β) (data : List UInt8), data.length = length →
      (∀ b' ∈ values, 8 + (c.encode b').length ≤ length) →
      (values.foldl (fun data b => disc.toList ++ c.encode b
        ++ data.drop (disc.toList ++ c.encode b).length) data).length = length := by
    intro values
    induction values with
    | nil => exact fun data hdata _ => hdata
    | cons v values ih =>
      intro data hdata hall
      obtain ⟨hv, hrest⟩ := List.forall_mem_cons.mp hall
      refine ih _ ?_ hrest
      simp only [List.length_append, List.length_drop, Vector.length_toList]
      omega
  refine ⟨hkeep _ _ List.length_replicate hfits, ?_⟩
  rw [rewritten, List.foldl_append, List.foldl_cons, List.foldl_nil]
  exact ⟨_, List.append_assoc _ _ _⟩

/-! ### Stamping the version -/

lemma writeMigrated_zero (h : 3 ≤ stale.length) (hzero : staleVersion stale = ⟨0, 0, 0⟩) :
    writeMigrated (versionedLayout disc c) ⟨b, staleVersion stale⟩ (unversioned disc c b stale)
      = .ok ((versionedLayout disc c).encode ⟨b, currentVersion⟩ ++ stale.drop 3) := by
  have hversion : migrateVersion (staleVersion stale) = .ok currentVersion := by
    rw [hzero]
    decide
  have hlen : ((versionedLayout disc c).encode ⟨b, currentVersion⟩).length
      = ((versionedLayout disc c).encode ⟨b, staleVersion stale⟩).length := by
    rw [versioned_encode_length, versioned_encode_length]
  rw [writeMigrated, hversion, ok_bind, unversioned_eq h]
  refine Layout.writeAccount_eq_ok.mpr ⟨?_, ?_⟩
  · rw [hlen, List.length_append]
    omega
  · rw [hlen, List.drop_left]

/-- Only an account without a version, or one that is up to date, gets through the loop. -/
lemma migrateVersion_ok {v v' : SchemaVersion} (hlt : v.lt currentVersion)
    (h : migrateVersion v = .ok v') : v = ⟨0, 0, 0⟩ := by
  by_contra hne
  rw [migrateVersion, if_pos hlt, if_neg hne] at h
  cases h

lemma current_read (hb : c.Valid b) (rest : List UInt8) : (versionedLayout disc c).tryDeserialize
    ((versionedLayout disc c).encode ⟨b, currentVersion⟩ ++ rest) = .ok ⟨b, currentVersion⟩ :=
  Layout.tryDeserialize_eq_ok.mpr ⟨⟨hb, staleVersion_valid [1, 0, 0]⟩, rest, rfl⟩

lemma migrateRead_current (hb : c.Valid b) (rest : List UInt8) :
    migrateRead (versionedLayout disc c)
      ((versionedLayout disc c).encode ⟨b, currentVersion⟩ ++ rest)
      = .error .alreadyLatestVersion := by
  rw [migrateRead, current_read hb, ok_bind]
  rfl

lemma migrateRead_zero (hb : c.Valid b) (h : 3 ≤ stale.length)
    (hzero : staleVersion stale = ⟨0, 0, 0⟩) :
    migrateRead (versionedLayout disc c) (unversioned disc c b stale)
      = .ok ((versionedLayout disc c).encode ⟨b, currentVersion⟩ ++ stale.drop 3) := by
  have hlt : (staleVersion stale).lt currentVersion := by
    rw [hzero]
    decide
  rw [migrateRead, unversioned_read hb h, ok_bind, require_of hlt, ok_bind,
    writeMigrated_zero h hzero]

lemma staleVersion_of_migrateRead (hb : c.Valid b) (h : 3 ≤ stale.length) {data' : List UInt8}
    (hok : migrateRead (versionedLayout disc c) (unversioned disc c b stale) = .ok data') :
    staleVersion stale = ⟨0, 0, 0⟩ := by
  rw [migrateRead, unversioned_read hb h, ok_bind] at hok
  obtain ⟨_, hlt, hok⟩ := bind_eq_ok.mp hok
  obtain ⟨v, hv, -⟩ := bind_eq_ok.mp hok
  exact migrateVersion_ok (require_eq_ok.mp hlt) hv

lemma room_of_length (hfits : ∀ b, Within b → 8 + (c.encode b).length + 3 ≤ data.length) :
    Room (versionedLayout disc c) Within data := by
  intro b hb
  refine ⟨_, Layout.writeAccount_eq_ok.mpr ⟨?_, rfl⟩⟩
  rw [versioned_encode_length]
  exact hfits b hb

/-! ### Accounts of a fixed size -/

lemma migrated_length (hlen : (unversioned disc c b stale).length + 3 = size) :
    ((versionedLayout disc c).encode ⟨b, currentVersion⟩
      ++ (stale ++ List.replicate 3 0).drop 3).length = size := by
  rw [List.length_append, versioned_encode_length, List.length_drop, List.length_append,
    List.length_replicate]
  simp only [unversioned, List.length_append, Vector.length_toList] at hlen
  omega

lemma migrateAccount_iff (hb : c.Valid b)
    (hfits : ∀ b, Within b → 8 + (c.encode b).length + 3 ≤ size)
    (hlen : (unversioned disc c b stale).length + 3 = size) :
    MigratesOnce (migrateAccount (versionedLayout disc c) size) (versionedLayout disc c) b
      (Room (versionedLayout disc c) Within) (unversioned disc c b stale)
      ↔ staleVersion stale = ⟨0, 0, 0⟩ := by
  have hthree : 3 ≤ (stale ++ List.replicate 3 0).length := by simp
  rw [MigratesOnce, migrateAccount, unversioned_grow hlen, ← staleVersion_append]
  constructor
  · rintro ⟨data', hok, -⟩
    exact staleVersion_of_migrateRead hb hthree hok
  · intro hzero
    have hok : migrateRead (versionedLayout disc c)
        (unversioned disc c b (stale ++ List.replicate 3 0)) = _ := migrateRead_zero hb hthree hzero
    have hsize := migrated_length hlen
    refine ⟨_, hok, current_read hb _, room_of_length fun b hb => (hfits b hb).trans_eq hsize.symm,
      .alreadyLatestVersion, ?_⟩
    rw [migrateAccount, growAccount_of_length hsize, migrateRead_current hb]

/-- A migration after any history of writes. -/
theorem migrateAccount_rewritten {length : ℕ} (values : List β)
    (hvalid : ∀ b, Within b → c.Valid b)
    (hfits : ∀ b, Within b → 8 + (c.encode b).length + 3 ≤ size)
    (hall : ∀ b' ∈ values ++ [b], Within b') (hsize : length + 3 = size) :
    MigratesOnce (migrateAccount (versionedLayout disc c) size) (versionedLayout disc c) b
      (Room (versionedLayout disc c) Within) (rewritten disc c length (values ++ [b]))
      ↔ staleVersion ((rewritten disc c length (values ++ [b])).drop (8 + (c.encode b).length))
        = ⟨0, 0, 0⟩ := by
  have hwritten : (rewritten disc c length (values ++ [b])).length = length ∧
      ∃ stale, rewritten disc c length (values ++ [b]) = unversioned disc c b stale := by
    refine rewritten_append values fun b' hb' => ?_
    have hroom := hfits b' (hall b' hb')
    omega
  obtain ⟨hlength, stale, heq⟩ := hwritten
  have hstale : (unversioned disc c b stale).drop (8 + (c.encode b).length) = stale := by
    rw [unversioned, ← List.append_assoc]
    exact List.drop_left' (by simp)
  rw [heq] at hlength ⊢
  rw [hstale]
  exact migrateAccount_iff (hvalid b (hall b (by simp))) hfits (by rw [hlength, hsize])

/-! ### The two accounts of an asset -/

lemma migrateIfNeeded_ok (h : 3 ≤ stale.length)
    (hversion : staleVersion stale = ⟨0, 0, 0⟩ ∨ staleVersion stale = currentVersion) :
    migrateIfNeeded (versionedLayout disc c) ⟨b, staleVersion stale⟩ (unversioned disc c b stale)
      = .ok ((versionedLayout disc c).encode ⟨b, currentVersion⟩ ++ stale.drop 3) := by
  rcases hversion with hzero | hcurrent
  · have hlt : (staleVersion stale).lt currentVersion := by
      rw [hzero]
      decide
    rw [migrateIfNeeded, if_pos hlt, writeMigrated_zero h hzero]
  · have hnot : ¬ (staleVersion stale).lt currentVersion := by
      rw [hcurrent]
      decide
    rw [migrateIfNeeded, if_neg hnot, unversioned_eq h, hcurrent]

lemma staleVersion_of_migrateIfNeeded (hb : c.Valid b) (h : 3 ≤ stale.length) {data' : List UInt8}
    (hok : migrateIfNeeded (versionedLayout disc c) ⟨b, staleVersion stale⟩
      (unversioned disc c b stale) = .ok data')
    (hread : (versionedLayout disc c).tryDeserialize data' = .ok ⟨b, currentVersion⟩) :
    staleVersion stale = ⟨0, 0, 0⟩ ∨ staleVersion stale = currentVersion := by
  unfold migrateIfNeeded at hok
  split at hok
  · rename_i hlt
    obtain ⟨v, hv, -⟩ := bind_eq_ok.mp hok
    exact .inl (migrateVersion_ok hlt hv)
  · obtain rfl := Except.ok.inj hok
    rw [unversioned_read hb h] at hread
    exact .inr (congrArg Versioned.version (Except.ok.inj hread))

end

section

variable {d : Discriminators} {config : AntConfigFields} {list : AntControllersFields}
  {page : AclPageFields} {stale stale' : List UInt8} {k : ℕ}

/-- Both versions are missing or up to date, and at least one is missing. -/
def AntStale (v v' : SchemaVersion) : Prop :=
  (v = ⟨0, 0, 0⟩ ∨ v = currentVersion) ∧ (v' = ⟨0, 0, 0⟩ ∨ v' = currentVersion) ∧
    (v = ⟨0, 0, 0⟩ ∨ v' = ⟨0, 0, 0⟩)

lemma migrateAnt_iff (hc : config.WithinLimits) (hl : list.WithinLimits)
    (hlen : (unversioned d.antConfig antConfigCodec config stale).length + 3 = antConfigSize)
    (hlen' : (unversioned d.antControllers antControllersCodec list stale').length + 3
      = antControllersSize) :
    AntMigratesOnce d config list (unversioned d.antConfig antConfigCodec config stale)
      (unversioned d.antControllers antControllersCodec list stale')
      ↔ AntStale (staleVersion stale) (staleVersion stale') := by
  have hthree : 3 ≤ (stale ++ List.replicate 3 0).length := by simp
  have hthree' : 3 ≤ (stale' ++ List.replicate 3 0).length := by simp
  rw [AntMigratesOnce, migrateAnt, unversioned_grow hlen, unversioned_grow hlen',
    ← staleVersion_append stale, ← staleVersion_append stale']
  rw [antConfigLayout, antControllersLayout, unversioned_read hc.valid hthree, ok_bind]
  dsimp only
  rw [unversioned_read hl.valid hthree', ok_bind]
  constructor
  · rintro ⟨configData', controllersData', hok, hread, hread', -⟩
    obtain ⟨_, hneeded, hok⟩ := bind_eq_ok.mp hok
    obtain ⟨_, hok₁, hok⟩ := bind_eq_ok.mp hok
    obtain ⟨_, hok₂, hok⟩ := bind_eq_ok.mp hok
    obtain ⟨rfl, rfl⟩ := Prod.mk.inj (Except.ok.inj hok)
    have hv := staleVersion_of_migrateIfNeeded hc.valid hthree hok₁ hread
    have hv' := staleVersion_of_migrateIfNeeded hl.valid hthree' hok₂ hread'
    refine ⟨hv, hv', ?_⟩
    -- an account that is up to date needs no migration
    have hcurrent : ∀ {v : SchemaVersion}, v = currentVersion → ¬ v.lt currentVersion := by
      rintro v rfl
      decide
    rcases require_eq_ok.mp hneeded with hlt | hlt
    · exact .inl (hv.resolve_right fun h => hcurrent h hlt)
    · exact .inr (hv'.resolve_right fun h => hcurrent h hlt)
  · rintro ⟨hv, hv', hzero⟩
    have hneeded : (staleVersion (stale ++ List.replicate 3 0)).lt currentVersion ∨
        (staleVersion (stale' ++ List.replicate 3 0)).lt currentVersion := by
      rcases hzero with h | h
      · exact .inl (by rw [h]; decide)
      · exact .inr (by rw [h]; decide)
    rw [require_of hneeded, ok_bind, migrateIfNeeded_ok hthree hv, ok_bind,
      migrateIfNeeded_ok hthree' hv', ok_bind]
    have hsize := migrated_length hlen
    have hsize' := migrated_length hlen'
    refine ⟨_, _, rfl, current_read hc.valid _, current_read hl.valid _,
      room_of_length fun c hc => hc.length_le.trans_eq hsize.symm,
      room_of_length fun l hl => hl.length_le.trans_eq hsize'.symm, .alreadyLatestVersion, ?_⟩
    rw [migrateAnt, growAccount_of_length hsize, growAccount_of_length hsize', antConfigLayout,
      antControllersLayout, current_read hc.valid, ok_bind]
    dsimp only
    rw [current_read hl.valid, ok_bind]
    rfl

/-! ### Pages -/

lemma pageRoom_of_length (hlen : AclPage.sizeFor page.entries.length ≤ data.length) :
    PageRoom d page data := by
  refine ⟨?_, fun n => ?_⟩
  · refine room_of_length fun p hp => ?_
    have hcount := Nat.mul_le_mul_right 33 hp.2
    rw [aclPageCodec_length]
    unfold AclPage.sizeFor aclEntrySize at hlen ⊢
    omega
  · refine room_of_length fun p hp => ?_
    rw [aclPageCodec_length, resyncPageData, growAccount_length, hp.2]

lemma migrateAclPage_eq (hp : page.WithinLimits) (hstale : stale.length = 33 * k) :
    ∃ grown, 3 ≤ grown.length ∧ staleVersion grown = staleVersion stale ∧
      migrateAclPage d (unversioned d.aclPage aclPageCodec page stale)
        = migrateRead (aclPageLayout d) (unversioned d.aclPage aclPageCodec page grown) := by
  rw [migrateAclPage, aclPageLayout]
  by_cases hk : k = 0
  · obtain rfl : stale = [] := List.length_eq_zero_iff.mp (by omega)
    have hno : ¬ ((versionedLayout d.aclPage aclPageCodec).tryDeserialize
        (unversioned d.aclPage aclPageCodec page [])).isOk := by
      cases hread : (versionedLayout d.aclPage aclPageCodec).tryDeserialize
          (unversioned d.aclPage aclPageCodec page []) with
      | error e => simp [Except.isOk, Except.toBool]
      | ok a => exact absurd hread (unversioned_not_read hp.valid)
    refine ⟨[] ++ List.replicate 3 0, by simp, staleVersion_append [], ?_⟩
    rw [if_pos hno, schemaVersionSize, unversioned_grow rfl]
  · have hthree : 3 ≤ stale.length := by omega
    refine ⟨stale, hthree, rfl, ?_⟩
    rw [unversioned_read hp.valid hthree, if_neg (by simp [Except.isOk, Except.toBool])]

lemma migrateAclPage_iff (hp : page.WithinLimits) (hstale : stale.length = 33 * k) :
    MigratesOnce (migrateAclPage d) (aclPageLayout d) page (PageRoom d page)
      (unversioned d.aclPage aclPageCodec page stale) ↔ staleVersion stale = ⟨0, 0, 0⟩ := by
  obtain ⟨grown, hthree, hversion, heq⟩ := migrateAclPage_eq (d := d) hp hstale
  rw [MigratesOnce, heq, ← hversion, aclPageLayout]
  constructor
  · rintro ⟨data', hok, -⟩
    exact staleVersion_of_migrateRead hp.valid hthree hok
  · intro hzero
    have hread : (versionedLayout d.aclPage aclPageCodec).tryDeserialize _ = _ :=
      current_read hp.valid (grown.drop 3)
    refine ⟨_, migrateRead_zero hp.valid hthree hzero, hread, pageRoom_of_length ?_,
      .alreadyLatestVersion, ?_⟩
    · rw [List.length_append, versioned_encode_length, aclPageCodec_length]
      omega
    · rw [migrateAclPage, aclPageLayout, hread, if_neg (by simp [Except.isOk, Except.toBool]),
        migrateRead_current hp.valid]

end

/-- **Migrations from before versions.** A migration succeeds once, without loss, if and only if the
three bytes behind the fields are zeros. The two accounts of an asset are migrated together: there
one of the two may have the current version by chance. -/
theorem migration_iff (d : Discriminators) :
    (∀ config list stale stale', config.WithinLimits → list.WithinLimits →
      (unversioned d.antConfig antConfigCodec config stale).length + 3 = antConfigSize →
      (unversioned d.antControllers antControllersCodec list stale').length + 3
        = antControllersSize →
      (AntMigratesOnce d config list (unversioned d.antConfig antConfigCodec config stale)
        (unversioned d.antControllers antControllersCodec list stale')
        ↔ AntStale (staleVersion stale) (staleVersion stale'))) ∧
    (∀ record stale, record.WithinLimits →
      (unversioned d.antRecord antRecordCodec record stale).length + 3 = antRecordSize →
      (MigratesOnce (migrateAntRecord d) (antRecordLayout d) record
        (Room (antRecordLayout d) AntRecordFields.WithinLimits)
        (unversioned d.antRecord antRecordCodec record stale)
        ↔ staleVersion stale = ⟨0, 0, 0⟩)) ∧
    (∀ metadata stale, metadata.WithinLimits →
      (unversioned d.antRecordMetadata antRecordMetadataCodec metadata stale).length + 3
        = antRecordMetadataSize →
      (MigratesOnce (migrateAntRecordMetadata d) (antRecordMetadataLayout d) metadata
        (Room (antRecordMetadataLayout d) AntRecordMetadataFields.WithinLimits)
        (unversioned d.antRecordMetadata antRecordMetadataCodec metadata stale)
        ↔ staleVersion stale = ⟨0, 0, 0⟩)) ∧
    (∀ page stale k, page.WithinLimits → stale.length = 33 * k →
      (MigratesOnce (migrateAclPage d) (aclPageLayout d) page (PageRoom d page)
        (unversioned d.aclPage aclPageCodec page stale) ↔ staleVersion stale = ⟨0, 0, 0⟩)) := by
  refine ⟨fun config list stale stale' hc hl hlen hlen' => migrateAnt_iff hc hl hlen hlen',
    fun record stale hr hlen => migrateAccount_iff hr.valid (fun r hr => hr.length_le) hlen,
    fun metadata stale hm hlen => migrateAccount_iff hm.valid (fun m hm => hm.length_le) hlen,
    fun page stale k hp hstale => migrateAclPage_iff hp hstale⟩

namespace SmallMigration

def zero : Vector UInt8 8 := .replicate 8 0

def marks : Discriminators := ⟨zero, zero, zero, zero, zero⟩

def page (entries : List AclEntryFields) : AclPageFields := ⟨⟨7⟩, 0, entries, 255⟩

/-- An asset whose key starts with four ones. -/
def entry : AclEntryFields := ⟨⟨16843009⟩, 0⟩

/-- A page that one entry was added to and removed from. -/
def emptied :
    List UInt8 := rewritten zero aclPageCodec (AclPage.sizeFor 1 - 3) [page [entry], page []]

/-- A page with its entry. -/
def full : List UInt8 := unversioned zero aclPageCodec (page [entry]) []

lemma page_within : (page [entry]).WithinLimits :=
  ⟨by decide, by decide, by decide, by decide⟩

end SmallMigration

open SmallMigration in
theorem migration_iff_small : ∃ data', migrateAclPage marks full = .ok data' ∧
    (aclPageLayout marks).tryDeserialize data' = .ok ⟨page [entry], currentVersion⟩ := by
  obtain ⟨data', hok, hread, -⟩ :=
    ((migration_iff marks).2.2.2 (page [entry]) [] 0 page_within rfl).mpr rfl
  exact ⟨data', hok, hread⟩

open SmallMigration in
/-- A page from which an entry was removed reads a part of the entry's key as its version, and
cannot be migrated. -/
theorem emptied_page_stuck :
    emptied.length + 3 = AclPage.sizeFor 1 ∧
    (aclPageLayout marks).tryDeserialize emptied = .ok ⟨page [], ⟨1, 1, 1⟩⟩ ∧
    migrateAclPage marks emptied = .error .alreadyLatestVersion := by
  refine ⟨by decide +kernel, by decide +kernel, by decide +kernel⟩

end Ant
end ArioSolana
