import ArioSolana.AntMigration
import ArioSolana.BorshWalks
import ArioSolana.Runs

/-!
# Imports

While the migration is active, its authority writes whole accounts from bytes. Reading them would
take more memory than the program has, so the import walks over them: it goes over the fields and
wants zeros behind. The walk looks at lengths only. So what it lets in is exactly a value and zeros,
and the program can read it later exactly if the texts in it are texts. -/

namespace ArioSolana
namespace Ant

open Checked Solana Borsh Anchor

inductive ImportError where
  | invalidAccountData
  | invalidPda
  | migrationExpired
  | migrationInactive
  | migrationAlreadyFinalized
  | unauthorized
  | invalidAuthority
  | accountAlreadyInUse
  | accountNotInitialized
deriving DecidableEq

/-! ### Walks over the fields -/

/-- `read_u8`, of a value that nobody uses. -/
def skipU8 : Walk ImportError := walkBytes .invalidAccountData 1

/-- `read_u32_le`, of a value that nobody uses. -/
def skipU32Le : Walk ImportError := walkBytes .invalidAccountData 4

def skipPubkey : Walk ImportError := walkBytes .invalidAccountData 32

/-- The hash of an undername. -/
def skipHash : Walk ImportError := walkBytes .invalidAccountData 32

def skipString : Walk ImportError := walkString .invalidAccountData

def skipVecString : Walk ImportError := walkVec .invalidAccountData maxKeywords
    (walkMany skipString)

def skipVecPubkey : Walk ImportError :=
  walkVec .invalidAccountData maxControllers fun n => walkBytes .invalidAccountData (n * 32)

def skipOptionU32 : Walk ImportError := walkOption .invalidAccountData skipU32Le

def skipOptionPubkey : Walk ImportError := walkOption .invalidAccountData skipPubkey

def skipOptionString : Walk ImportError := walkOption .invalidAccountData skipString

def skipOptionVecString : Walk ImportError := walkOption .invalidAccountData skipVecString

def skipSchemaVersion : Walk ImportError := walkBytes .invalidAccountData schemaVersionSize

def requireTrailingZeroPadding (data : List UInt8) (i : ℕ) : Except ImportError Unit :=
  require ((data.drop i).all (· == 0)) .invalidAccountData

/-! ### Accounts -/

def validateAntConfigBorshPayload (data : List UInt8) : Except ImportError Unit := do
  let i ← skipPubkey data 8
  let i ← skipString data i
  let i ← skipString data i
  let i ← skipString data i
  let i ← skipString data i
  let i ← skipVecString data i
  let i ← skipPubkey data i
  let i ← skipU8 data i
  let i ← skipSchemaVersion data i
  requireTrailingZeroPadding data i

def validateAntControllersBorshPayload (data : List UInt8) : Except ImportError Unit := do
  let i ← skipPubkey data 8
  let i ← skipVecPubkey data i
  let i ← skipU8 data i
  let i ← skipSchemaVersion data i
  requireTrailingZeroPadding data i

def validateAntRecordBorshPayload (data : List UInt8) : Except ImportError Unit := do
  let i ← skipPubkey data 8
  let i ← skipString data i
  let i ← skipString data i
  let i ← skipU8 data i
  let i ← skipU32Le data i
  let i ← skipOptionU32 data i
  let i ← skipOptionPubkey data i
  let i ← skipPubkey data i
  let i ← skipU8 data i
  let i ← skipSchemaVersion data i
  requireTrailingZeroPadding data i

def validateAntRecordMetadataBorshPayload (data : List UInt8) : Except ImportError Unit := do
  let i ← skipPubkey data 8
  let i ← skipHash data i
  let i ← skipOptionString data i
  let i ← skipOptionString data i
  let i ← skipOptionString data i
  let i ← skipOptionVecString data i
  let i ← skipU8 data i
  let i ← skipSchemaVersion data i
  requireTrailingZeroPadding data i

def validateAntAccountBorsh (d : Discriminators) (disc data : List UInt8) :
    Except ImportError Unit :=
  if disc = d.antConfig.toList then validateAntConfigBorshPayload data
  else if disc = d.antControllers.toList then validateAntControllersBorshPayload data
  else if disc = d.antRecord.toList then validateAntRecordBorshPayload data
  else if disc = d.antRecordMetadata.toList then validateAntRecordMetadataBorshPayload data
  else .error .invalidAccountData

/-- The size of an account with the mark. -/
def knownDiscriminator (d : Discriminators) (disc : List UInt8) : Option ℕ :=
  if disc = d.antConfig.toList then some antConfigSize
  else if disc = d.antControllers.toList then some antControllersSize
  else if disc = d.antRecord.toList then some antRecordSize
  else if disc = d.antRecordMetadata.toList then some antRecordMetadataSize
  else none

/-! ### The instructions -/

/-- 2112-04-20, far away by design. -/
def migrationDeadline : ℤ := 4490553669

structure AntMigrationConfig where
  authority : Pubkey
  migrationAuthority : Pubkey
  migrationActive : Bool
  bump : ℕ
  version : SchemaVersion
deriving DecidableEq

def antMigrationConfigSize : ℕ := 8 + 32 + 32 + 1 + 1 + schemaVersionSize

/-- An account that is not empty. -/
structure ProgramAccount where
  owner : Pubkey
  data : List UInt8
deriving DecidableEq

structure ImportState where
  config : Option AntMigrationConfig
  /-- all accounts but the migration's own -/
  accounts : Pubkey → Option ProgramAccount

def ImportState.setAccount (s : ImportState) (account : Pubkey) (info : ProgramAccount) :
    ImportState :=
  { s with accounts := Function.update s.accounts account (some info) }

structure ImportEnv where
  programId : Pubkey
  /-- the address that is derived from seeds, unless they are too many or too long -/
  findProgramAddress : List (List UInt8) → Option Pubkey
  /-- the bump and the address of the migration's own account -/
  configBump : ℕ
  configAddress : Pubkey
  upgradeAuthority : Option Pubkey
  discriminators : Discriminators

/-- Set up the migration, by who may upgrade the program. -/
def initializeMigration (env : ImportEnv) (payer authority migrationAuthority : Pubkey)
    (s : ImportState) :
    Except ImportError ImportState := do
  require (s.config = none) .accountAlreadyInUse
  require (env.upgradeAuthority = some payer) .unauthorized
  return { s with config := some ⟨authority, migrationAuthority, true, env.configBump, ⟨1, 0, 0⟩⟩ }

/-- Write an account from bytes. The account keeps its size, and what the bytes leave of it is zero.
-/
def importAccount (env : ImportEnv) (clock : ℤ) (authority account : Pubkey)
    (seeds : List (List UInt8))
    (data : List UInt8) (s : ImportState) : Except ImportError ImportState := do
  let config ← okOr s.config .accountNotInitialized
  require (config.migrationActive = true) .migrationInactive
  require (config.migrationAuthority = authority) .unauthorized
  require (clock < migrationDeadline) .migrationExpired
  require (env.findProgramAddress seeds = some account) .invalidPda
  require (8 ≤ data.length) .invalidAccountData
  let disc := data.take 8
  let expectedSize ← okOr (knownDiscriminator env.discriminators disc) .invalidAccountData
  require (data.length ≤ expectedSize) .invalidAccountData
  validateAntAccountBorsh env.discriminators disc data
  -- the migration's own account is not empty, and has its own size
  require (account = env.configAddress → antMigrationConfigSize = expectedSize) .invalidAccountData
  let accountData ← match s.accounts account with
    | none => pure (List.replicate expectedSize 0)
    | some info => do
      require (info.owner = env.programId) .invalidAccountData
      require (info.data.length = expectedSize) .invalidAccountData
      pure info.data
  let n := min data.length accountData.length
  let written := data.take n ++ List.replicate (accountData.length - n) 0
  return s.setAccount account ⟨env.programId, written⟩

/-- End the migration for good. -/
def finalizeMigration (authority : Pubkey) (s : ImportState) : Except ImportError ImportState := do
  let config ← okOr s.config .accountNotInitialized
  require (config.migrationActive = true) .migrationAlreadyFinalized
  require (config.authority = authority) .unauthorized
  return { s with config := some { config with migrationActive := false } }

def transferAuthority (authority newAuthority : Pubkey) (s : ImportState) :
    Except ImportError ImportState := do
  let config ← okOr s.config .accountNotInitialized
  require (config.authority = authority) .unauthorized
  require (newAuthority ≠ Pubkey.default) .invalidAuthority
  return { s with config := some { config with authority := newAuthority } }

/-- The instructions of the migration. -/
inductive ImportInstruction where
  | initializeMigration (payer authority migrationAuthority : Pubkey)
  | importAccount (authority account : Pubkey) (seeds : List (List UInt8)) (data : List UInt8)
  | finalizeMigration (authority : Pubkey)
  | transferAuthority (authority newAuthority : Pubkey)

def ImportInstruction.handler (env : ImportEnv) (clock : ℤ) :
    ImportInstruction → ImportState → Except ImportError ImportState
  | .initializeMigration payer authority migrationAuthority =>
    Ant.initializeMigration env payer authority migrationAuthority
  | .importAccount authority account seeds data => Ant.importAccount env clock authority account
      seeds data
  | .finalizeMigration authority => Ant.finalizeMigration authority
  | .transferAuthority authority newAuthority => Ant.transferAuthority authority newAuthority

/-- An instruction at some time. -/
def ImportStep (env : ImportEnv) (s : ImportState) (x : ℤ × ImportInstruction) (s' : ImportState) :
    Prop :=
  x.2.handler env x.1 s = .ok s'

@[simp] lemma ImportState.setAccount_self (s : ImportState) (account : Pubkey)
    (info : ProgramAccount) :
    (s.setAccount account info).accounts account = some info := Function.update_self ..

lemma ImportState.setAccount_of_ne {s : ImportState} {account k : Pubkey} {info : ProgramAccount}
    (h : k ≠ account) : (s.setAccount account info).accounts k = s.accounts k :=
  Function.update_of_ne h ..

@[simp] lemma ImportState.setAccount_config (s : ImportState) (account : Pubkey)
    (info : ProgramAccount) :
    (s.setAccount account info).config = s.config := rfl

/-! ### What the walks go over -/

lemma walks_pubkey : Walks skipPubkey (fun _ => True) pubkeyCodec.encode := by
  refine walks_bytes (fun k _ => pubkeyCodec_length k) fun l hl => ?_
  have hlt : ofLeBytes l < 2 ^ 256 := (ofLeBytes_lt l).trans_eq (by rw [hl]; norm_num)
  refine ⟨⟨⟨ofLeBytes l, hlt⟩⟩, trivial, ?_⟩
  change leBytes 32 (ofLeBytes l) = l
  rw [← hl, leBytes_ofLeBytes]

lemma walks_version : Walks skipSchemaVersion versionCodec.Valid versionCodec.encode := by
  refine walks_bytes (fun v _ => ?_) fun l hl => ?_
  · change (leBytes 1 v.major ++ (leBytes 1 v.minor ++ leBytes 1 v.patch)).length = 3
    simp only [List.length_append, leBytes_length]
  · obtain ⟨a, b, c, rfl⟩ := List.length_eq_three.mp hl
    refine ⟨⟨a.toNat, b.toNat, c.toNat⟩, ⟨a.toNat_lt, b.toNat_lt, c.toNat_lt⟩, ?_⟩
    change leBytes 1 a.toNat ++ (leBytes 1 b.toNat ++ leBytes 1 c.toNat) = [a, b, c]
    simp only [leBytes_toNat, List.singleton_append]

lemma walks_u8 : Walks skipU8 (fun n => n < 2 ^ 8) (Codec.word 1).encode :=
  (walks_word _ 1).congr fun n => by norm_num

lemma walks_u32 : Walks skipU32Le (fun n => n < 2 ^ 32) (Codec.word 4).encode :=
  (walks_word _ 4).congr fun n => by norm_num

lemma walks_text : Walks skipString (fun s => s.length < 2 ^ 32) Codec.string.encode :=
  (walks_string _).congr fun s => by norm_num

lemma walks_keywords : Walks skipVecString
    (fun l => l.length ≤ maxKeywords ∧ ∀ s ∈ l, s.length < 2 ^ 32) Codec.string.vec.encode :=
  walks_vec (fun _ => walks_text.many) (by decide)

lemma walks_controllers : Walks skipVecPubkey (fun l => l.length ≤ maxControllers)
    pubkeyCodec.vec.encode :=
  (walks_vec (fun _ => walks_rows walks_pubkey fun k _ => pubkeyCodec_length k) (by decide)).congr
    fun l => by simp

/-! ### Values that pass -/

/-- The texts of the fields. -/
def AntConfigFields.texts (c : AntConfigFields) : List Text :=
  c.name :: c.ticker :: c.logo :: c.description :: c.keywords

def AntControllersFields.texts (_ : AntControllersFields) : List Text := []

def AntRecordFields.texts (r : AntRecordFields) : List Text := [r.undername, r.target]

def AntRecordMetadataFields.texts (m : AntRecordMetadataFields) : List Text :=
  m.displayName.toList ++ m.recordLogo.toList ++ m.recordDescription.toList ++
    m.recordKeywords.getD []

/-- The values that the walks go over, with any bytes for texts. -/
structure AntConfigFields.Passes (c : AntConfigFields) : Prop where
  texts : ∀ s ∈ c.texts, s.length < 2 ^ 32
  keywords : c.keywords.length ≤ maxKeywords
  bump : c.bump < 2 ^ 8

structure AntControllersFields.Passes (l : AntControllersFields) : Prop where
  controllers : l.controllers.length ≤ maxControllers
  bump : l.bump < 2 ^ 8

structure AntRecordFields.Passes (r : AntRecordFields) : Prop where
  texts : ∀ s ∈ r.texts, s.length < 2 ^ 32
  targetProtocol : r.targetProtocol < 2 ^ 8
  ttlSeconds : r.ttlSeconds < 2 ^ 32
  priority : ∀ p ∈ r.priority, p < 2 ^ 32
  bump : r.bump < 2 ^ 8

structure AntRecordMetadataFields.Passes (m : AntRecordMetadataFields) : Prop where
  texts : ∀ s ∈ m.texts, s.length < 2 ^ 32
  keywords : ∀ l ∈ m.recordKeywords, l.length ≤ maxKeywords
  bump : m.bump < 2 ^ 8

/-- The walk of `validate_ant_config_borsh_payload`. -/
def antConfigWalk : Walk ImportError :=
  walkThen (walkThen skipPubkey <| walkThen skipString <| walkThen skipString <| walkThen
    skipString <|
    walkThen skipString <| walkThen skipVecString <| walkThen skipPubkey skipU8) skipSchemaVersion

def antControllersWalk : Walk ImportError :=
  walkThen (walkThen skipPubkey <| walkThen skipVecPubkey skipU8) skipSchemaVersion

def antRecordWalk : Walk ImportError :=
  walkThen (walkThen skipPubkey <| walkThen skipString <| walkThen skipString <| walkThen skipU8 <|
    walkThen skipU32Le <| walkThen skipOptionU32 <| walkThen skipOptionPubkey <|
    walkThen skipPubkey skipU8) skipSchemaVersion

def antRecordMetadataWalk : Walk ImportError :=
  walkThen (walkThen skipPubkey <| walkThen skipHash <| walkThen skipOptionString <|
    walkThen skipOptionString <| walkThen skipOptionString <| walkThen skipOptionVecString skipU8)
    skipSchemaVersion

lemma walks_versioned {β : Type} {walk : Walk ImportError} {V : β → Prop} {c : Codec β}
    (h : Walks walk V c.encode) : Walks (walkThen walk skipSchemaVersion)
      (fun a => V a.fields ∧ versionCodec.Valid a.version) (Versioned.codec c).encode :=
  (h.pair walks_version).record (fun x => (⟨x.1, x.2⟩ : Versioned β))
    (fun a => (a.fields, a.version)) fun _ => rfl

lemma antConfig_walks : Walks antConfigWalk
    (fun a => a.fields.Passes ∧ versionCodec.Valid a.version)
    (Versioned.codec antConfigCodec).encode := by
  refine walks_versioned (Walks.congr ((walks_pubkey.pair (walks_text.pair (walks_text.pair
    (walks_text.pair (walks_text.pair (walks_keywords.pair (walks_pubkey.pair
      walks_u8))))))).record
    (fun x => (⟨x.1, x.2.1, x.2.2.1, x.2.2.2.1, x.2.2.2.2.1, x.2.2.2.2.2.1, x.2.2.2.2.2.2.1,
      x.2.2.2.2.2.2.2⟩ : AntConfigFields))
    (fun a => (a.mint, a.name, a.ticker, a.logo, a.description, a.keywords, a.lastKnownOwner,
      a.bump)) fun _ => rfl) fun a => ?_)
  constructor
  · rintro ⟨-, hname, hticker, hlogo, hdescription, ⟨hcount, hkeywords⟩, -, hbump⟩
    refine ⟨?_, hcount, hbump⟩
    simp only [AntConfigFields.texts, List.forall_mem_cons]
    exact ⟨hname, hticker, hlogo, hdescription, hkeywords⟩
  · rintro ⟨htexts, hcount, hbump⟩
    simp only [AntConfigFields.texts, List.forall_mem_cons] at htexts
    obtain ⟨hname, hticker, hlogo, hdescription, hkeywords⟩ := htexts
    exact ⟨trivial, hname, hticker, hlogo, hdescription, ⟨hcount, hkeywords⟩, trivial, hbump⟩

lemma antControllers_walks : Walks antControllersWalk
    (fun a => a.fields.Passes ∧ versionCodec.Valid a.version)
    (Versioned.codec antControllersCodec).encode := by
  refine walks_versioned (Walks.congr ((walks_pubkey.pair (walks_controllers.pair walks_u8)).record
    (fun x => (⟨x.1, x.2.1, x.2.2⟩ : AntControllersFields))
    (fun a => (a.mint, a.controllers, a.bump)) fun _ => rfl) fun a => ?_)
  constructor
  · rintro ⟨-, hcount, hbump⟩
    exact ⟨hcount, hbump⟩
  · rintro ⟨hcount, hbump⟩
    exact ⟨trivial, hcount, hbump⟩

lemma antRecord_walks : Walks antRecordWalk
    (fun a => a.fields.Passes ∧ versionCodec.Valid a.version)
    (Versioned.codec antRecordCodec).encode := by
  refine walks_versioned (Walks.congr ((walks_pubkey.pair (walks_text.pair (walks_text.pair
    (walks_u8.pair (walks_u32.pair (walks_u32.option.pair (walks_pubkey.option.pair
      (walks_pubkey.pair walks_u8)))))))).record
    (fun x => (⟨x.1, x.2.1, x.2.2.1, x.2.2.2.1, x.2.2.2.2.1, x.2.2.2.2.2.1, x.2.2.2.2.2.2.1,
      x.2.2.2.2.2.2.2.1, x.2.2.2.2.2.2.2.2⟩ : AntRecordFields))
    (fun a => (a.mint, a.undername, a.target, a.targetProtocol, a.ttlSeconds, a.priority, a.owner,
      a.lastReconciledOwner, a.bump)) fun _ => rfl) fun a => ?_)
  constructor
  · rintro ⟨-, hundername, htarget, hprotocol, httl, hpriority, -, -, hbump⟩
    refine ⟨?_, hprotocol, httl, hpriority, hbump⟩
    simp only [AntRecordFields.texts, List.forall_mem_cons]
    exact ⟨hundername, htarget, by simp⟩
  · rintro ⟨htexts, hprotocol, httl, hpriority, hbump⟩
    simp only [AntRecordFields.texts, List.forall_mem_cons] at htexts
    exact ⟨trivial, htexts.1, htexts.2.1, hprotocol, httl, hpriority, fun _ _ => trivial, trivial,
      hbump⟩

lemma antRecordMetadata_walks : Walks antRecordMetadataWalk
    (fun a => a.fields.Passes ∧ versionCodec.Valid a.version)
    (Versioned.codec antRecordMetadataCodec).encode := by
  refine walks_versioned (Walks.congr ((walks_pubkey.pair ((walks_raw _ 32).pair
    (walks_text.option.pair (walks_text.option.pair (walks_text.option.pair
      (walks_keywords.option.pair walks_u8)))))).record
    (fun x => (⟨x.1, x.2.1, x.2.2.1, x.2.2.2.1, x.2.2.2.2.1, x.2.2.2.2.2.1, x.2.2.2.2.2.2⟩ :
      AntRecordMetadataFields))
    (fun a => (a.mint, a.undernameHash, a.displayName, a.recordLogo, a.recordDescription,
      a.recordKeywords, a.bump)) fun _ => rfl) fun a => ?_)
  constructor
  · rintro ⟨-, -, hname, hlogo, hdescription, hkeywords, hbump⟩
    refine ⟨?_, fun l hl => (hkeywords l hl).1, hbump⟩
    simp only [AntRecordMetadataFields.texts, List.forall_mem_append, Option.mem_toList]
    refine ⟨⟨⟨hname, hlogo⟩, hdescription⟩, ?_⟩
    cases hk : a.recordKeywords with
    | none => simp
    | some l => exact (hkeywords l hk).2
  · rintro ⟨htexts, hcount, hbump⟩
    simp only [AntRecordMetadataFields.texts, List.forall_mem_append, Option.mem_toList] at htexts
    obtain ⟨⟨⟨hname, hlogo⟩, hdescription⟩, hkeywords⟩ := htexts
    refine ⟨trivial, trivial, hname, hlogo, hdescription, fun l hl => ⟨hcount l hl, ?_⟩, hbump⟩
    have hsome : a.recordKeywords = some l := hl
    rw [hsome] at hkeywords
    exact hkeywords

/-! ### Payloads -/

section

variable {α β : Type} {L : Layout α} {walk : Walk ImportError} {V : α → Prop} {data : List UInt8}
  {d : Discriminators} {size : ℕ}

/-- A value and zeros. -/
def Pads (L : Layout α) (a : α) (data : List UInt8) : Prop :=
  ∃ n, data = L.encode a ++ List.replicate n 0

lemma payload_iff (hw : Walks walk V L.codec.encode) (hlen : 8 ≤ data.length)
    (hdisc : data.take 8 = L.discriminator.toList) :
    (do let i ← walk data 8; requireTrailingZeroPadding data i) = .ok () ↔
      ∃ a, V a ∧ Pads L a data := by
  have hmark : L.discriminator.toList.length = 8 := L.discriminator.length_toList
  simp only [bind_eq_ok, requireTrailingZeroPadding, require_eq_ok, List.all_eq_true, beq_iff_eq,
    hw data 8 _ hlen]
  constructor
  · rintro ⟨_, ⟨front, a, rest, rfl, hfront, ha, rfl⟩, hzeros⟩
    rw [List.take_left' hfront] at hdisc
    subst hdisc
    rw [← List.append_assoc, List.drop_left' (by rw [List.length_append, hmark])] at hzeros
    obtain ⟨n, rfl⟩ := zeros_iff.mp hzeros
    refine ⟨a, ha, n, ?_⟩
    rw [Layout.encode, List.append_assoc]
  · rintro ⟨a, ha, n, rfl⟩
    rw [Layout.encode, List.append_assoc]
    refine ⟨_, ⟨L.discriminator.toList, a, List.replicate n 0, rfl, hmark, ha, rfl⟩, ?_⟩
    rw [← List.append_assoc, List.drop_left' (by rw [List.length_append, hmark])]
    exact zeros_iff.mpr ⟨n, rfl⟩

lemma validateAntConfig_eq : validateAntConfigBorshPayload data =
    (do let i ← antConfigWalk data 8; requireTrailingZeroPadding data i) := by
  simp only [validateAntConfigBorshPayload, antConfigWalk, walkThen, bind_assoc]

lemma validateAntControllers_eq : validateAntControllersBorshPayload data =
    (do let i ← antControllersWalk data 8; requireTrailingZeroPadding data i) := by
  simp only [validateAntControllersBorshPayload, antControllersWalk, walkThen, bind_assoc]

lemma validateAntRecord_eq : validateAntRecordBorshPayload data =
    (do let i ← antRecordWalk data 8; requireTrailingZeroPadding data i) := by
  simp only [validateAntRecordBorshPayload, antRecordWalk, walkThen, bind_assoc]

lemma validateAntRecordMetadata_eq : validateAntRecordMetadataBorshPayload data =
    (do let i ← antRecordMetadataWalk data 8; requireTrailingZeroPadding data i) := by
  simp only [validateAntRecordMetadataBorshPayload, antRecordMetadataWalk, walkThen, bind_assoc]

/-- The marks of the imported types are different. -/
def Discriminators.Distinct (d : Discriminators) : Prop :=
  [d.antConfig, d.antControllers, d.antRecord, d.antRecordMetadata].Nodup

instance (d : Discriminators) : Decidable d.Distinct := inferInstanceAs (Decidable (List.Nodup _))

/-- The import knows the type: its size, and which values of it pass. -/
structure Knows (d : Discriminators) (L : Layout (Versioned β)) (size : ℕ) (Passes : β → Prop) :
    Prop where
  size_eq : knownDiscriminator d L.discriminator.toList = some size
  validate : ∀ data, 8 ≤ data.length → data.take 8 = L.discriminator.toList →
    (validateAntAccountBorsh d (data.take 8) data = .ok () ↔
      ∃ a, (Passes a.fields ∧ versionCodec.Valid a.version) ∧ Pads L a data)

lemma knows_antConfig (d : Discriminators) :
    Knows d (antConfigLayout d) antConfigSize AntConfigFields.Passes where
  size_eq := if_pos rfl
  validate data hlen hdisc := by
    rw [hdisc, validateAntAccountBorsh, if_pos (by rfl), validateAntConfig_eq]
    exact payload_iff antConfig_walks hlen hdisc

lemma knows_antControllers (hd : d.Distinct) :
    Knows d (antControllersLayout d) antControllersSize AntControllersFields.Passes := by
  have hne : ¬ d.antControllers.toList = d.antConfig.toList := fun h => by
    simp [Discriminators.Distinct, Vector.toList_inj.mp h] at hd
  refine ⟨?_, fun data hlen hdisc => ?_⟩
  · change knownDiscriminator d d.antControllers.toList = _
    rw [knownDiscriminator, if_neg hne, if_pos rfl]
  · have hmark : data.take 8 = d.antControllers.toList := hdisc
    rw [hmark, validateAntAccountBorsh, if_neg hne, if_pos rfl, validateAntControllers_eq]
    exact payload_iff antControllers_walks hlen hdisc

lemma knows_antRecord (hd : d.Distinct) :
    Knows d (antRecordLayout d) antRecordSize AntRecordFields.Passes := by
  have hne : ¬ d.antRecord.toList = d.antConfig.toList := fun h => by
    simp [Discriminators.Distinct, Vector.toList_inj.mp h] at hd
  have hne' : ¬ d.antRecord.toList = d.antControllers.toList := fun h => by
    simp [Discriminators.Distinct, Vector.toList_inj.mp h] at hd
  refine ⟨?_, fun data hlen hdisc => ?_⟩
  · change knownDiscriminator d d.antRecord.toList = _
    rw [knownDiscriminator, if_neg hne, if_neg hne', if_pos rfl]
  · have hmark : data.take 8 = d.antRecord.toList := hdisc
    rw [hmark, validateAntAccountBorsh, if_neg hne, if_neg hne', if_pos rfl, validateAntRecord_eq]
    exact payload_iff antRecord_walks hlen hdisc

lemma knows_antRecordMetadata (hd : d.Distinct) :
    Knows d (antRecordMetadataLayout d) antRecordMetadataSize AntRecordMetadataFields.Passes := by
  have hne : ¬ d.antRecordMetadata.toList = d.antConfig.toList := fun h => by
    simp [Discriminators.Distinct, Vector.toList_inj.mp h] at hd
  have hne' : ¬ d.antRecordMetadata.toList = d.antControllers.toList := fun h => by
    simp [Discriminators.Distinct, Vector.toList_inj.mp h] at hd
  have hne'' : ¬ d.antRecordMetadata.toList = d.antRecord.toList := fun h => by
    simp [Discriminators.Distinct, Vector.toList_inj.mp h] at hd
  refine ⟨?_, fun data hlen hdisc => ?_⟩
  · change knownDiscriminator d d.antRecordMetadata.toList = _
    rw [knownDiscriminator, if_neg hne, if_neg hne', if_neg hne'', if_pos rfl]
  · have hmark : data.take 8 = d.antRecordMetadata.toList := hdisc
    rw [hmark, validateAntAccountBorsh, if_neg hne, if_neg hne', if_neg hne'', if_pos rfl,
      validateAntRecordMetadata_eq]
    exact payload_iff antRecordMetadata_walks hlen hdisc

lemma known_cases {disc : List UInt8} (h : knownDiscriminator d disc = some size) :
    disc = d.antConfig.toList ∨ disc = d.antControllers.toList ∨ disc = d.antRecord.toList ∨
      disc = d.antRecordMetadata.toList := by
  unfold knownDiscriminator at h
  split at h
  · exact .inl ‹_›
  split at h
  · exact .inr (.inl ‹_›)
  split at h
  · exact .inr (.inr (.inl ‹_›))
  split at h
  · exact .inr (.inr (.inr ‹_›))
  · cases h

end

/-! ### Imports -/

section

variable {β : Type} {L : Layout (Versioned β)} {size : ℕ} {Passes : β → Prop} {env : ImportEnv}
  {clock : ℤ} {authority account : Pubkey} {seeds : List (List UInt8)} {data : List UInt8}
  {s s' : ImportState}

/-- What an import asks besides its data. -/
structure Importable (env : ImportEnv) (clock : ℤ) (authority account : Pubkey)
    (seeds : List (List UInt8)) (size : ℕ) (s : ImportState) : Prop where
  active : ∃ config, s.config = some config ∧ config.migrationActive = true ∧
    config.migrationAuthority = authority
  early : clock < migrationDeadline
  address : env.findProgramAddress seeds = some account
  foreign : account = env.configAddress → antMigrationConfigSize = size
  room : ∀ info ∈ s.accounts account, info.owner = env.programId ∧ info.data.length = size

/-- The value in an account of the size, and zeros behind it. -/
def stored {α : Type} (L : Layout α) (a : α) (size : ℕ) : List UInt8 :=
  L.encode a ++ List.replicate (size - (L.encode a).length) 0

lemma Pads.stored {α : Type} {L : Layout α} {a : α} (h : Pads L a data)
    (hle : data.length ≤ size) :
    data ++ List.replicate (size - data.length) 0 = stored L a size := by
  obtain ⟨n, rfl⟩ := h
  rw [stored, List.append_assoc, List.replicate_append_replicate]
  rw [List.length_append, List.length_replicate] at hle ⊢
  congr 2
  omega

/-- **One import.** -/
lemma importAccount_iff : importAccount env clock authority account seeds data s = .ok s' ↔
    ∃ size, knownDiscriminator env.discriminators (data.take 8) = some size ∧
      Importable env clock authority account seeds size s ∧ 8 ≤ data.length ∧ data.length ≤ size ∧
      validateAntAccountBorsh env.discriminators (data.take 8) data = .ok () ∧
      s' = s.setAccount account ⟨env.programId, data ++ List.replicate (size - data.length) 0⟩ := by
  have hbuffer : ∀ {size} {buffer : List UInt8}, data.length ≤ size → buffer.length = size →
      data.take (min data.length buffer.length) ++
        List.replicate (buffer.length - min data.length buffer.length) 0 =
      data ++ List.replicate (size - data.length) 0 := by
    intro size buffer hle hbuffer
    rw [hbuffer, min_eq_left hle, List.take_length]
  simp only [importAccount, bind_eq_ok, okOr_eq_ok, require_eq_ok, exists_const]
  constructor
  · rintro ⟨config, hconfig, hactive, hauthority, hearly, haddress, hlen, size, hknown, hle, _,
      hvalid,
      hforeign, h⟩
    refine ⟨size, hknown, ⟨⟨config, hconfig, hactive, hauthority⟩, hearly, haddress, hforeign, ?_⟩,
      hlen, hle,
      hvalid, ?_⟩
    all_goals
      cases hat : s.accounts account with
      | none =>
        rw [hat] at h
        simp only [bind_eq_ok, pure_eq_ok, exists_eq_left'] at h
        first | (rintro _ ⟨⟩) | (rw [← h, hbuffer hle List.length_replicate])
      | some info =>
        rw [hat] at h
        simp only [bind_eq_ok, require_eq_ok, exists_const, pure_eq_ok, exists_eq_left'] at h
        obtain ⟨howner, hsize, h⟩ := h
        first
          | (rintro _ ⟨⟩; exact ⟨howner, hsize⟩)
          | (rw [← h, hbuffer hle hsize])
  · rintro ⟨size, hknown, ⟨⟨config, hconfig, hactive, hauthority⟩, hearly, haddress, hforeign,
      hroom⟩, hlen,
      hle, hvalid, rfl⟩
    refine ⟨config, hconfig, hactive, hauthority, hearly, haddress, hlen, size, hknown, hle, (),
      hvalid,
      hforeign, ?_⟩
    cases hat : s.accounts account with
    | none =>
      simp only [bind_eq_ok, pure_eq_ok, exists_eq_left']
      rw [hbuffer hle List.length_replicate]
    | some info =>
      obtain ⟨howner, hsize⟩ := hroom info hat
      simp only [bind_eq_ok, require_eq_ok, exists_const, pure_eq_ok, exists_eq_left']
      refine ⟨howner, hsize, ?_⟩
      rw [hbuffer hle hsize]

/-- **An import of a type** that the import knows. -/
lemma Knows.importAccount_iff (hk : Knows env.discriminators L size Passes)
    (hdisc : data.take 8 = L.discriminator.toList) :
    importAccount env clock authority account seeds data s = .ok s' ↔
      Importable env clock authority account seeds size s ∧ data.length ≤ size ∧
        ∃ a, (Passes a.fields ∧ versionCodec.Valid a.version) ∧ Pads L a data ∧
          s' = s.setAccount account ⟨env.programId, stored L a size⟩ := by
  have hlen : 8 ≤ data.length := by
    have hmark := congrArg List.length hdisc
    rw [L.discriminator.length_toList, List.length_take] at hmark
    omega
  rw [Ant.importAccount_iff]
  constructor
  · rintro ⟨size', hknown, himport, -, hle, hvalid, rfl⟩
    rw [hdisc, hk.size_eq] at hknown
    obtain rfl := Option.some.inj hknown
    obtain ⟨a, hpasses, hpads⟩ := (hk.validate data hlen hdisc).mp hvalid
    exact ⟨himport, hle, a, hpasses, hpads, by rw [hpads.stored hle]⟩
  · rintro ⟨himport, hle, a, hpasses, hpads, rfl⟩
    refine ⟨size, by rw [hdisc, hk.size_eq], himport, hlen, hle,
      (hk.validate data hlen hdisc).mpr ⟨a, hpasses, hpads⟩, by rw [hpads.stored hle]⟩

end

/-! ### Reading what was imported -/

/-! The format of the fields with any bytes for texts. -/

def AntConfigFields.ofTuple (x : Pubkey × Text × Text × Text × Text × List Text × Pubkey × ℕ) :
    AntConfigFields :=
  ⟨x.1, x.2.1, x.2.2.1, x.2.2.2.1, x.2.2.2.2.1, x.2.2.2.2.2.1, x.2.2.2.2.2.2.1, x.2.2.2.2.2.2.2⟩

def AntConfigFields.toTuple (c : AntConfigFields) :
    Pubkey × Text × Text × Text × Text × List Text × Pubkey × ℕ :=
  (c.mint, c.name, c.ticker, c.logo, c.description, c.keywords, c.lastKnownOwner, c.bump)

lemma AntConfigFields.ofTuple_toTuple (c : AntConfigFields) : ofTuple c.toTuple = c :=
  rfl

lemma AntConfigFields.toTuple_ofTuple (x) : toTuple (ofTuple x) = x :=
  rfl

def antConfigBytesCodec : Codec AntConfigFields :=
  (pubkeyCodec.pair (Codec.bytes.pair (Codec.bytes.pair (Codec.bytes.pair (Codec.bytes.pair
    (Codec.bytes.vec.pair (pubkeyCodec.pair (Codec.word 1)))))))).record AntConfigFields.ofTuple
    AntConfigFields.toTuple AntConfigFields.ofTuple_toTuple AntConfigFields.toTuple_ofTuple

def AntRecordFields.ofTuple
    (x : Pubkey × Text × Text × ℕ × ℕ × Option ℕ × Option Pubkey × Pubkey × ℕ) : AntRecordFields :=
  ⟨x.1, x.2.1, x.2.2.1, x.2.2.2.1, x.2.2.2.2.1, x.2.2.2.2.2.1, x.2.2.2.2.2.2.1, x.2.2.2.2.2.2.2.1,
    x.2.2.2.2.2.2.2.2⟩

def AntRecordFields.toTuple (r : AntRecordFields) :
    Pubkey × Text × Text × ℕ × ℕ × Option ℕ × Option Pubkey × Pubkey × ℕ :=
  (r.mint, r.undername, r.target, r.targetProtocol, r.ttlSeconds, r.priority, r.owner,
    r.lastReconciledOwner, r.bump)

lemma AntRecordFields.ofTuple_toTuple (r : AntRecordFields) : ofTuple r.toTuple = r :=
  rfl

lemma AntRecordFields.toTuple_ofTuple (x) : toTuple (ofTuple x) = x :=
  rfl

def antRecordBytesCodec : Codec AntRecordFields :=
  (pubkeyCodec.pair (Codec.bytes.pair (Codec.bytes.pair ((Codec.word 1).pair ((Codec.word 4).pair
    ((Codec.word 4).option.pair (pubkeyCodec.option.pair (pubkeyCodec.pair
      (Codec.word 1))))))))).record AntRecordFields.ofTuple AntRecordFields.toTuple
    AntRecordFields.ofTuple_toTuple AntRecordFields.toTuple_ofTuple

def AntRecordMetadataFields.ofTuple (x : Pubkey × Bytes32 × Option Text × Option Text ×
    Option Text × Option (List Text) × ℕ) : AntRecordMetadataFields :=
  ⟨x.1, x.2.1, x.2.2.1, x.2.2.2.1, x.2.2.2.2.1, x.2.2.2.2.2.1, x.2.2.2.2.2.2⟩

def AntRecordMetadataFields.toTuple (m : AntRecordMetadataFields) : Pubkey × Bytes32 ×
    Option Text × Option Text × Option Text × Option (List Text) × ℕ :=
  (m.mint, m.undernameHash, m.displayName, m.recordLogo, m.recordDescription, m.recordKeywords,
    m.bump)

lemma AntRecordMetadataFields.ofTuple_toTuple (m : AntRecordMetadataFields) :
    ofTuple m.toTuple = m :=
  rfl

lemma AntRecordMetadataFields.toTuple_ofTuple (x) : toTuple (ofTuple x) = x :=
  rfl

def antRecordMetadataBytesCodec : Codec AntRecordMetadataFields :=
  (pubkeyCodec.pair ((Codec.raw 32).pair (Codec.bytes.option.pair (Codec.bytes.option.pair
    (Codec.bytes.option.pair (Codec.bytes.vec.option.pair (Codec.word 1))))))).record
    AntRecordMetadataFields.ofTuple AntRecordMetadataFields.toTuple
    AntRecordMetadataFields.ofTuple_toTuple AntRecordMetadataFields.toTuple_ofTuple

/-- The fields that pass are those of the format, up to whether their texts are texts. -/
structure Reads {β : Type} (c bytes : Codec β) (Passes Within : β → Prop) (texts : β → List Text) :
    Prop where
  encode : bytes.encode = c.encode
  bytes : ∀ b, Passes b ∨ c.Valid b → bytes.Valid b
  valid : ∀ b, Passes b → (c.Valid b ↔ ∀ s ∈ texts b, Utf8 s)
  within : ∀ b, Within b → c.Valid b ∧ Passes b

lemma antConfig_reads : Reads antConfigCodec antConfigBytesCodec AntConfigFields.Passes
    AntConfigFields.WithinLimits AntConfigFields.texts where
  encode := rfl
  bytes c h := by
    rcases h with ⟨htexts, hcount, hbump⟩ | ⟨-, hname, hticker, hlogo, hdescription, hkeywords, -,
      hbump⟩
    · simp only [AntConfigFields.texts, List.forall_mem_cons] at htexts
      obtain ⟨hname, hticker, hlogo, hdescription, hkeywords⟩ := htexts
      exact ⟨trivial, hname, hticker, hlogo, hdescription, ⟨hcount.trans_lt (by decide), hkeywords⟩,
        trivial, hbump⟩
    · exact ⟨trivial, hname.1, hticker.1, hlogo.1, hdescription.1,
        ⟨hkeywords.1, fun s hs => (hkeywords.2 s hs).1⟩, trivial, hbump⟩
  valid c h := by
    obtain ⟨htexts, hcount, hbump⟩ := h
    simp only [AntConfigFields.texts, List.forall_mem_cons] at htexts ⊢
    obtain ⟨hname, hticker, hlogo, hdescription, hkeywords⟩ := htexts
    constructor
    · rintro ⟨-, hname, hticker, hlogo, hdescription, hkeywords, -⟩
      exact ⟨hname.2, hticker.2, hlogo.2, hdescription.2, fun s hs => (hkeywords.2 s hs).2⟩
    · rintro ⟨hname', hticker', hlogo', hdescription', hkeywords'⟩
      exact ⟨trivial, ⟨hname, hname'⟩, ⟨hticker, hticker'⟩, ⟨hlogo, hlogo'⟩,
        ⟨hdescription, hdescription'⟩, ⟨hcount.trans_lt (by decide), fun s hs =>
          ⟨hkeywords s hs, hkeywords' s hs⟩⟩, trivial, hbump⟩
  within c h := by
    refine ⟨h.valid, ?_, h.keywords.count, h.bump⟩
    obtain ⟨-, hname, hticker, hlogo, hdescription, hkeywords, -⟩ := h.valid
    simp only [AntConfigFields.texts, List.forall_mem_cons]
    exact ⟨hname.1, hticker.1, hlogo.1, hdescription.1, fun s hs => (hkeywords.2 s hs).1⟩

lemma antControllers_reads :
    Reads antControllersCodec antControllersCodec AntControllersFields.Passes
    AntControllersFields.WithinLimits AntControllersFields.texts where
  encode := rfl
  bytes l h := by
    rcases h with ⟨hcount, hbump⟩ | h
    · exact ⟨trivial, ⟨hcount.trans_lt (by decide), fun _ _ => trivial⟩, hbump⟩
    · exact h
  valid l h := by
    simp only [AntControllersFields.texts, List.not_mem_nil, false_imp_iff, implies_true, iff_true]
    exact ⟨trivial, ⟨h.controllers.trans_lt (by decide), fun _ _ => trivial⟩, h.bump⟩
  within l h := ⟨h.valid, h.controllers, h.bump⟩

lemma antRecord_reads : Reads antRecordCodec antRecordBytesCodec AntRecordFields.Passes
    AntRecordFields.WithinLimits AntRecordFields.texts where
  encode := rfl
  bytes r h := by
    rcases h with ⟨htexts, hprotocol, httl, hpriority, hbump⟩ |
      ⟨-, hundername, htarget, hprotocol, httl, hpriority, howner, -, hbump⟩
    · simp only [AntRecordFields.texts, List.forall_mem_cons] at htexts
      exact ⟨trivial, htexts.1, htexts.2.1, hprotocol, httl, hpriority, fun _ _ => trivial, trivial,
        hbump⟩
    · exact ⟨trivial, hundername.1, htarget.1, hprotocol, httl, hpriority, howner, trivial, hbump⟩
  valid r h := by
    obtain ⟨htexts, hprotocol, httl, hpriority, hbump⟩ := h
    simp only [AntRecordFields.texts, List.forall_mem_cons] at htexts ⊢
    constructor
    · rintro ⟨-, hundername, htarget, -⟩
      exact ⟨hundername.2, htarget.2, by simp⟩
    · rintro ⟨hundername, htarget, -⟩
      exact ⟨trivial, ⟨htexts.1, hundername⟩, ⟨htexts.2.1, htarget⟩, hprotocol, httl, hpriority,
        fun _ _ => trivial, trivial, hbump⟩
  within r h := by
    refine ⟨h.valid, ?_, h.targetProtocol, h.ttlSeconds, h.priority, h.bump⟩
    obtain ⟨-, hundername, htarget, -⟩ := h.valid
    simp only [AntRecordFields.texts, List.forall_mem_cons]
    exact ⟨hundername.1, htarget.1, by simp⟩

lemma antRecordMetadata_reads : Reads antRecordMetadataCodec antRecordMetadataBytesCodec
    AntRecordMetadataFields.Passes AntRecordMetadataFields.WithinLimits
    AntRecordMetadataFields.texts where
  encode := rfl
  bytes m h := by
    rcases h with ⟨htexts, hcount, hbump⟩ | ⟨-, -, hname, hlogo, hdescription, hkeywords, hbump⟩
    · simp only [AntRecordMetadataFields.texts, List.forall_mem_append, Option.mem_toList] at htexts
      obtain ⟨⟨⟨hname, hlogo⟩, hdescription⟩, hkeywords⟩ := htexts
      refine ⟨trivial, trivial, hname, hlogo, hdescription, fun l hl =>
        ⟨(hcount l hl).trans_lt (by decide),
        ?_⟩, hbump⟩
      have hsome : m.recordKeywords = some l := hl
      rw [hsome] at hkeywords
      exact hkeywords
    · exact ⟨trivial, trivial, fun s hs => (hname s hs).1, fun s hs => (hlogo s hs).1,
        fun s hs => (hdescription s hs).1,
        fun l hl => ⟨(hkeywords l hl).1, fun s hs => ((hkeywords l hl).2 s hs).1⟩, hbump⟩
  valid m h := by
    obtain ⟨htexts, hcount, hbump⟩ := h
    simp only [AntRecordMetadataFields.texts, List.forall_mem_append, Option.mem_toList] at htexts ⊢
    obtain ⟨⟨⟨hname, hlogo⟩, hdescription⟩, hkeywords⟩ := htexts
    constructor
    · rintro ⟨-, -, hname, hlogo, hdescription, hkeywords, -⟩
      refine ⟨⟨⟨fun s hs => (hname s hs).2, fun s hs => (hlogo s hs).2⟩,
        fun s hs => (hdescription s hs).2⟩, ?_⟩
      cases hk : m.recordKeywords with
      | none => simp
      | some l => exact fun s hs => ((hkeywords l hk).2 s hs).2
    · rintro ⟨⟨⟨hname', hlogo'⟩, hdescription'⟩, hkeywords'⟩
      refine ⟨trivial, trivial, fun s hs => ⟨hname s hs, hname' s hs⟩,
        fun s hs => ⟨hlogo s hs, hlogo' s hs⟩, fun s hs => ⟨hdescription s hs, hdescription' s hs⟩,
        fun l hl => ⟨(hcount l hl).trans_lt (by decide), fun s hs => ?_⟩, hbump⟩
      have hsome : m.recordKeywords = some l := hl
      rw [hsome] at hkeywords hkeywords'
      exact ⟨hkeywords s hs, hkeywords' s hs⟩
  within m h := by
    refine ⟨h.valid, ?_, fun l hl => (h.recordKeywords l hl).count, h.bump⟩
    obtain ⟨-, -, hname, hlogo, hdescription, hkeywords, -⟩ := h.valid
    simp only [AntRecordMetadataFields.texts, List.forall_mem_append, Option.mem_toList]
    refine ⟨⟨⟨fun s hs => (hname s hs).1, fun s hs => (hlogo s hs).1⟩,
      fun s hs => (hdescription s hs).1⟩, ?_⟩
    cases hk : m.recordKeywords with
    | none => simp
    | some l => exact fun s hs => ((hkeywords l hk).2 s hs).1

lemma Reads.tryDeserialize {β : Type} {c bytes : Codec β} {Passes Within : β → Prop}
    {texts : β → List Text} {disc : Vector UInt8 8} {a a' : Versioned β} {size : ℕ}
    (hr : Reads c bytes Passes Within texts) (hp : Passes a.fields)
    (hv : versionCodec.Valid a.version) :
    (versionedLayout disc c).tryDeserialize (stored (versionedLayout disc c) a size) = .ok a' ↔
      a' = a ∧ ∀ s ∈ texts a.fields, Utf8 s := by
  have hencode : (versionedLayout disc c).codec.encode = (Versioned.codec bytes).encode := by
    funext x
    change c.encode x.fields ++ versionCodec.encode x.version =
      bytes.encode x.fields ++ versionCodec.encode x.version
    rw [hr.encode]
  rw [Layout.tryDeserialize_eq_ok, ← hr.valid _ hp]
  constructor
  · rintro ⟨⟨hc, hv'⟩, stale, heq⟩
    rw [stored, Layout.encode, Layout.encode, List.append_assoc, List.append_assoc, hencode] at heq
    obtain ⟨rfl, -⟩ := (Versioned.codec bytes).encode_inj ⟨hr.bytes _ (.inl hp), hv⟩
      ⟨hr.bytes _ (.inr hc), hv'⟩ (List.append_cancel_left heq)
    exact ⟨rfl, hc⟩
  · rintro ⟨rfl, hc⟩
    exact ⟨⟨hc, hv⟩, _, rfl⟩

/-! ### The format of the imports -/

/-- How a type is imported: what is let in and what then is in the account, what the program reads
there, and that the values within the limits are let in and read. -/
structure ImportsExactly {β : Type} (env : ImportEnv) (L : Layout (Versioned β)) (size : ℕ)
    (Passes Within : β → Prop) (texts : β → List Text) : Prop where
  accepts : ∀ s s' clock authority account seeds data, data.take 8 = L.discriminator.toList →
    (importAccount env clock authority account seeds data s = .ok s' ↔
      Importable env clock authority account seeds size s ∧ data.length ≤ size ∧
        ∃ a, (Passes a.fields ∧ versionCodec.Valid a.version) ∧ Pads L a data ∧
          s' = s.setAccount account ⟨env.programId, stored L a size⟩)
  reads : ∀ a a', Passes a.fields → versionCodec.Valid a.version →
    (L.tryDeserialize (stored L a size) = .ok a' ↔ a' = a ∧ ∀ s ∈ texts a.fields, Utf8 s)
  room : ∀ b v, Within b → versionCodec.Valid v →
    Passes b ∧ (∀ s ∈ texts b, Utf8 s) ∧ (L.encode ⟨b, v⟩).length ≤ size

lemma Knows.importsExactly {β : Type} {env : ImportEnv} {disc : Vector UInt8 8} {c bytes : Codec β}
    {size : ℕ} {Passes Within : β → Prop} {texts : β → List Text}
    (hk : Knows env.discriminators (versionedLayout disc c) size Passes)
    (hr : Reads c bytes Passes Within texts)
    (hsize : ∀ b, Within b → 8 + (c.encode b).length + 3 ≤ size) :
    ImportsExactly env (versionedLayout disc c) size Passes Within texts where
  accepts _ _ _ _ _ _ _ hdisc := hk.importAccount_iff hdisc
  reads _ _ hp hv := hr.tryDeserialize hp hv
  room b v hb _ := by
    obtain ⟨hvalid, hp⟩ := hr.within b hb
    refine ⟨hp, (hr.valid b hp).mp hvalid, ?_⟩
    rw [versioned_encode_length]
    exact hsize b hb

/-- **Imports are exact.** Bytes with the mark of a type are let in exactly if they are a value of
the type with any bytes for texts, and zeros; then the account is this value and zeros up to the
size of the type. The program reads exactly this value from it if all texts are texts, and nothing
otherwise. Every value within the limits is let in and read. Bytes with another mark are never let
in. -/
theorem import_exact (env : ImportEnv) (hd : env.discriminators.Distinct) :
    ImportsExactly env (antConfigLayout env.discriminators) antConfigSize AntConfigFields.Passes
      AntConfigFields.WithinLimits AntConfigFields.texts ∧
    ImportsExactly env (antControllersLayout env.discriminators) antControllersSize
      AntControllersFields.Passes AntControllersFields.WithinLimits AntControllersFields.texts ∧
    ImportsExactly env (antRecordLayout env.discriminators) antRecordSize AntRecordFields.Passes
      AntRecordFields.WithinLimits AntRecordFields.texts ∧
    ImportsExactly env (antRecordMetadataLayout env.discriminators) antRecordMetadataSize
      AntRecordMetadataFields.Passes AntRecordMetadataFields.WithinLimits
      AntRecordMetadataFields.texts ∧
    ∀ s s' clock authority account seeds data,
      importAccount env clock authority account seeds data s = .ok s' →
      data.take 8 = env.discriminators.antConfig.toList ∨
      data.take 8 = env.discriminators.antControllers.toList ∨
      data.take 8 = env.discriminators.antRecord.toList ∨
      data.take 8 = env.discriminators.antRecordMetadata.toList := by
  refine ⟨(knows_antConfig _).importsExactly antConfig_reads fun _ h => h.length_le,
    (knows_antControllers hd).importsExactly antControllers_reads fun _ h => h.length_le,
    (knows_antRecord hd).importsExactly antRecord_reads fun _ h => h.length_le,
    (knows_antRecordMetadata hd).importsExactly antRecordMetadata_reads fun _ h => h.length_le, ?_⟩
  intro s s' clock authority account seeds data h
  obtain ⟨size, hknown, -⟩ := importAccount_iff.mp h
  exact known_cases hknown

namespace SmallImports

def mark (n : ℕ) : Vector UInt8 8 := .replicate 8 (UInt8.ofNat n)

def env : ImportEnv where
  programId := ⟨9⟩
  findProgramAddress seeds :=
    if ∀ seed ∈ seeds, seed.length ≤ 32 then some ⟨Fin.ofNat _ (ofLeBytes seeds.flatten)⟩ else none
  configBump := 255
  configAddress := ⟨8⟩
  upgradeAuthority := some ⟨1⟩
  discriminators := ⟨mark 1, mark 2, mark 3, mark 4, mark 5⟩

def active : ImportState := ⟨some ⟨⟨2⟩, ⟨3⟩, true, 255, ⟨1, 0, 0⟩⟩, fun _ => none⟩

/-- The two controllers of an asset. -/
def controllers : Versioned AntControllersFields := ⟨⟨⟨16843009⟩, [⟨21⟩, ⟨22⟩], 7⟩, ⟨1, 0, 0⟩⟩

end SmallImports

open SmallImports in
/-- A list of two controllers is imported. -/
theorem import_exact_small : ∃ s', importAccount env 1000 ⟨3⟩ ⟨5⟩ [[5]]
      ((antControllersLayout env.discriminators).encode controllers) active = .ok s' ∧
    ∃ info, s'.accounts ⟨5⟩ = some info ∧
      (antControllersLayout env.discriminators).tryDeserialize info.data = .ok controllers := by
  obtain ⟨-, himport, -⟩ := import_exact env (by decide)
  have hwithin : controllers.fields.WithinLimits := ⟨by decide, by decide⟩
  have hversion : versionCodec.Valid controllers.version := by
    refine ⟨?_, ?_, ?_⟩ <;>
    · change _ < 256 ^ 1
      decide
  obtain ⟨hpasses, htexts, hsize⟩ := himport.room controllers.fields controllers.version hwithin
    hversion
  refine ⟨_, (himport.accepts active _ 1000 ⟨3⟩ ⟨5⟩ [[5]] _ ?_).mpr ⟨⟨⟨_, rfl, rfl, rfl⟩, by decide,
    by decide, by decide, fun info h => by cases h⟩, hsize, controllers, ⟨hpasses, hversion⟩,
    ⟨0, (List.append_nil _).symm⟩, rfl⟩, _, ImportState.setAccount_self .., ?_⟩
  · exact List.take_left' (mark 2).length_toList
  · exact (himport.reads controllers controllers hpasses hversion).mpr ⟨rfl, htexts⟩

/-! ### Runs -/

section

variable {env : ImportEnv} {s s' s₀ : ImportState}
    {tr : List (Step ImportState (ℤ × ImportInstruction))}
  {x : ℤ × ImportInstruction} {account : Pubkey}

/-- The account has a value of the type, and zeros up to its size. -/
def Fills {β : Type} (L : Layout (Versioned β)) (size : ℕ) (Passes : β → Prop)
    (data : List UInt8) : Prop :=
  data.length = size ∧ ∃ a, Passes a.fields ∧ versionCodec.Valid a.version ∧ data = stored L a size

/-- An account as imports leave it. -/
structure WellFormed (env : ImportEnv) (info : ProgramAccount) : Prop where
  owner : info.owner = env.programId
  data : Fills (antConfigLayout env.discriminators) antConfigSize AntConfigFields.Passes info.data ∨
    Fills (antControllersLayout env.discriminators) antControllersSize
      AntControllersFields.Passes info.data ∨
    Fills (antRecordLayout env.discriminators) antRecordSize AntRecordFields.Passes info.data ∨
    Fills (antRecordMetadataLayout env.discriminators) antRecordMetadataSize
      AntRecordMetadataFields.Passes info.data

lemma Knows.fills {β : Type} {L : Layout (Versioned β)} {size : ℕ} {Passes : β → Prop} {clock : ℤ}
    {authority : Pubkey} {seeds : List (List UInt8)} {data : List UInt8}
    (hk : Knows env.discriminators L size Passes) (hdisc : data.take 8 = L.discriminator.toList)
    (h : importAccount env clock authority account seeds data s = .ok s') :
    ∃ bytes, s' = s.setAccount account ⟨env.programId, bytes⟩ ∧ Fills L size Passes bytes := by
  obtain ⟨-, hle, a, ⟨hp, hv⟩, ⟨n, hn⟩, rfl⟩ := (hk.importAccount_iff hdisc).mp h
  refine ⟨_, rfl, ?_, a, hp, hv, rfl⟩
  have hfits : (L.encode a).length ≤ size := by
    rw [hn, List.length_append] at hle
    omega
  rw [stored, List.length_append, List.length_replicate]
  omega

lemma importAccount_wellFormed (hd : env.discriminators.Distinct) {clock : ℤ} {authority : Pubkey}
    {seeds : List (List UInt8)} {data : List UInt8}
    (h : importAccount env clock authority account seeds data s = .ok s') :
    ∃ info, WellFormed env info ∧ s' = s.setAccount account info := by
  obtain ⟨size, hknown, -⟩ := importAccount_iff.mp h
  rcases known_cases hknown with hdisc | hdisc | hdisc | hdisc
  · obtain ⟨bytes, hs, hfills⟩ := (knows_antConfig _).fills hdisc h
    exact ⟨_, ⟨rfl, .inl hfills⟩, hs⟩
  · obtain ⟨bytes, hs, hfills⟩ := (knows_antControllers hd).fills hdisc h
    exact ⟨_, ⟨rfl, .inr (.inl hfills)⟩, hs⟩
  · obtain ⟨bytes, hs, hfills⟩ := (knows_antRecord hd).fills hdisc h
    exact ⟨_, ⟨rfl, .inr (.inr (.inl hfills))⟩, hs⟩
  · obtain ⟨bytes, hs, hfills⟩ := (knows_antRecordMetadata hd).fills hdisc h
    exact ⟨_, ⟨rfl, .inr (.inr (.inr hfills))⟩, hs⟩

/-- **One instruction** writes well-formed accounts only. -/
lemma step_wellFormed (hd : env.discriminators.Distinct)
    (hs : ∀ k info, s.accounts k = some info → WellFormed env info) (h : ImportStep env s x s') :
    ∀ k info, s'.accounts k = some info → WellFormed env info := by
  obtain ⟨clock, i⟩ := x
  cases i with
  | initializeMigration payer authority migrationAuthority =>
    simp only [ImportStep, ImportInstruction.handler, initializeMigration, bind_eq_ok,
      require_eq_ok,
      exists_const, pure_eq_ok] at h
    obtain ⟨-, -, rfl⟩ := h
    exact hs
  | importAccount authority account seeds data =>
    obtain ⟨info', hinfo', rfl⟩ := importAccount_wellFormed hd h
    intro k info hk
    by_cases hne : k = account
    · subst hne
      rw [ImportState.setAccount_self] at hk
      rw [← Option.some.inj hk]
      exact hinfo'
    · rw [ImportState.setAccount_of_ne hne] at hk
      exact hs k info hk
  | finalizeMigration authority =>
    simp only [ImportStep, ImportInstruction.handler, finalizeMigration, bind_eq_ok, okOr_eq_ok,
      require_eq_ok, exists_const, pure_eq_ok] at h
    obtain ⟨config, -, -, -, rfl⟩ := h
    exact hs
  | transferAuthority authority newAuthority =>
    simp only [ImportStep, ImportInstruction.handler, transferAuthority, bind_eq_ok, okOr_eq_ok,
      require_eq_ok, exists_const, pure_eq_ok] at h
    obtain ⟨config, -, -, -, rfl⟩ := h
    exact hs

/-- The migration keeps its authority, and once it has ended it does not come back. -/
lemma step_config {config : AntMigrationConfig} (h : ImportStep env s x s')
    (hconfig : s.config = some config) :
    ∃ config', s'.config = some config' ∧ config'.migrationAuthority = config.migrationAuthority ∧
      (config.migrationActive = false → config'.migrationActive = false ∧ s'.accounts =
          s.accounts) := by
  obtain ⟨clock, i⟩ := x
  cases i with
  | initializeMigration payer authority migrationAuthority =>
    simp only [ImportStep, ImportInstruction.handler, initializeMigration, bind_eq_ok,
      require_eq_ok,
      exists_const, pure_eq_ok] at h
    rw [hconfig] at h
    cases h.1
  | importAccount authority account seeds data =>
    obtain ⟨size, -, ⟨⟨c, hc, hactive, -⟩, -⟩, -, -, -, rfl⟩ := importAccount_iff.mp h
    obtain rfl := Option.some.inj (hconfig.symm.trans hc)
    refine ⟨config, hconfig, rfl, fun hno => ?_⟩
    rw [hactive] at hno
    cases hno
  | finalizeMigration authority =>
    simp only [ImportStep, ImportInstruction.handler, finalizeMigration, bind_eq_ok, okOr_eq_ok,
      require_eq_ok, exists_const, pure_eq_ok] at h
    obtain ⟨c, hc, -, -, rfl⟩ := h
    obtain rfl := Option.some.inj (hconfig.symm.trans hc)
    exact ⟨_, rfl, rfl, fun _ => ⟨rfl, rfl⟩⟩
  | transferAuthority authority newAuthority =>
    simp only [ImportStep, ImportInstruction.handler, transferAuthority, bind_eq_ok, okOr_eq_ok,
      require_eq_ok, exists_const, pure_eq_ok] at h
    obtain ⟨c, hc, -, -, rfl⟩ := h
    obtain rfl := Option.some.inj (hconfig.symm.trans hc)
    exact ⟨_, rfl, rfl, fun hno => ⟨hno, rfl⟩⟩

/-- Nothing was set up. -/
def NoImports (s : ImportState) : Prop := s.config = none ∧ ∀ k, s.accounts k = none

/-- **Imports are confined.** In every run from the start: every account is a value of one of the
four types and zeros up to its size, and the program's; all imports are those of one authority,
which was named once; and once the migration has ended, no account changes by an import again. -/
theorem imports_confined (hd : env.discriminators.Distinct) (hfresh : NoImports s₀)
    (run : Run (ImportStep env) s₀ tr s) :
    (∀ k info, s.accounts k = some info → WellFormed env info) ∧
    (∀ y ∈ tr, ∀ authority account seeds data,
      y.label.2 = .importAccount authority account seeds data →
      ∃ config, s.config = some config ∧ config.migrationAuthority = authority) ∧
    ∀ config, s.config = some config → config.migrationActive = false →
      ∀ later s', Run (ImportStep env) s later s' → s'.accounts = s.accounts := by
  refine ⟨?_, ?_, ?_⟩
  · refine run.invariant (P := fun s => ∀ k info, s.accounts k = some info → WellFormed env info)
      (A := fun _ => True) ?_ ?_ fun _ _ => trivial
    · intro k info hk
      rw [hfresh.2 k] at hk
      cases hk
    · intro s x s' _ hs h
      exact step_wellFormed hd hs h
  · induction run with
    | nil =>
      intro y hy
      cases hy
    | @cons tr s x s' run last ih =>
      intro y hy authority account seeds data hcall
      rcases List.mem_cons.mp hy with rfl | hy
      · have himport : importAccount env x.1 authority account seeds data s = .ok s' := by
          have hstep : x.2.handler env x.1 s = .ok s' := last
          have hx : x.2 = .importAccount authority account seeds data := hcall
          rw [hx] at hstep
          exact hstep
        obtain ⟨size, -, ⟨⟨config, hconfig, -, hauthority⟩, -⟩, -, -, -, rfl⟩ :=
          importAccount_iff.mp himport
        exact ⟨config, hconfig, hauthority⟩
      · obtain ⟨config, hconfig, hauthority⟩ := ih y hy authority account seeds data hcall
        obtain ⟨config', hconfig', hsame, -⟩ := step_config last hconfig
        exact ⟨config', hconfig', hsame.trans hauthority⟩
  · intro config hconfig hended later s' run'
    have hstays : s'.accounts = s.accounts ∧
        ∃ config, s'.config = some config ∧ config.migrationActive = false := by
      induction run' with
      | nil => exact ⟨rfl, config, hconfig, hended⟩
      | cons run' last ih =>
        obtain ⟨hsame, c, hc, hno⟩ := ih
        obtain ⟨c', hc', -, hkept⟩ := step_config last hc
        obtain ⟨hno', haccounts⟩ := hkept hno
        exact ⟨haccounts.trans hsame, c', hc', hno'⟩
    exact hstays.1

end

namespace SmallImports

lemma controllers_imported : ∃ bytes, importAccount env 1000 ⟨3⟩ ⟨5⟩ [[5]]
    ((antControllersLayout env.discriminators).encode controllers) active =
      .ok (active.setAccount ⟨5⟩ ⟨⟨9⟩, bytes⟩) := by
  have hmark : ((antControllersLayout env.discriminators).encode controllers).take 8 =
      (antControllersLayout env.discriminators).discriminator.toList :=
    List.take_left' (mark 2).length_toList
  have hversion : versionCodec.Valid controllers.version := by
    refine ⟨?_, ?_, ?_⟩ <;>
    · change _ < 256 ^ 1
      decide
  exact ⟨_, ((knows_antControllers (by decide)).importAccount_iff hmark).mpr ⟨⟨⟨_, rfl, rfl, rfl⟩,
    by decide, by decide, by decide, fun info h => by cases h⟩, by decide, controllers,
    ⟨⟨by decide, by decide⟩, hversion⟩, ⟨0, (List.append_nil _).symm⟩, rfl⟩⟩

end SmallImports

open SmallImports in
/-- The migration is set up, imports a list of controllers and ends. -/
theorem imports_confined_small :
    ∃ tr s, Run (ImportStep env) ⟨none, fun _ => none⟩ tr s ∧ tr.length = 3 ∧
    (∃ info, s.accounts ⟨5⟩ = some info ∧ WellFormed env info) ∧
    ∀ later s', Run (ImportStep env) s later s' → s'.accounts = s.accounts := by
  obtain ⟨bytes, himport⟩ := controllers_imported
  have hstart : ImportStep env ⟨none, fun _ => none⟩ (1000, .initializeMigration ⟨1⟩ ⟨2⟩ ⟨3⟩)
    active := rfl
  have hwrite : ImportStep env active (1000, .importAccount ⟨3⟩ ⟨5⟩ [[5]] _)
      (active.setAccount ⟨5⟩ ⟨⟨9⟩, bytes⟩) := himport
  have hend : ImportStep env (active.setAccount ⟨5⟩ ⟨⟨9⟩, bytes⟩) (1000, .finalizeMigration ⟨2⟩)
      { active.setAccount ⟨5⟩ ⟨⟨9⟩, bytes⟩ with config := some ⟨⟨2⟩, ⟨3⟩, false, 255, ⟨1, 0, 0⟩⟩ } := rfl
  have run := ((Run.nil.cons hstart).cons hwrite).cons hend
  have hat : (active.setAccount ⟨5⟩ ⟨⟨9⟩, bytes⟩).accounts ⟨5⟩ = some ⟨⟨9⟩, bytes⟩ :=
    ImportState.setAccount_self ..
  obtain ⟨hwell, -, hended⟩ := imports_confined (by decide) ⟨rfl, fun _ => rfl⟩ run
  exact ⟨_, _, run, rfl, ⟨_, hat, hwell ⟨5⟩ _ hat⟩, hended _ rfl rfl⟩

end Ant
end ArioSolana
