import ArioSolana.AntTypes
import ArioSolana.ArnsTypes

/-!
# Reading other programs' accounts

The core program sees the accounts of the name programs as bytes. It does not decode them; it
walks over the fields it does not need and takes the few it does. What it takes is what was
encoded, whatever follows the encoding in the account, and on no bytes at all does a reader leave
the buffer.
-/

namespace ArioSolana
namespace Core

open Checked Solana Borsh

inductive ArioError where
  | invalidAccountState
  | arnsRecordNotFound
  | lockDurationTooShort
  | lockDurationTooLong
  | invalidAmount
  | vaultBelowMinimum
  | selfTransfer
  | vaultNotRevocable
  | notVaultController
  | vaultExpired
  | vaultLocked
  | invalidOwner
  | invalidParameter
  | unauthorized
  | arithmeticOverflow
  | arithmeticUnderflow
  | accountAlreadyInUse
  | accountNotInitialized
  | constraintSeeds
  | constraintRaw
  /-- the token program refuses -/
  | token (e : SplError)
deriving DecidableEq

/-- The result of a reader. -/
abbrev Read := Except (Fault ArioError)

/-- An account as a program sees it. -/
structure AccountInfo where
  key : Pubkey
  owner : Pubkey
  data : List UInt8

/-- What the core program takes from its surroundings. -/
structure ReadEnv extends Ant.Env where
  findProgramAddress : List (List UInt8) → Pubkey → Pubkey
  /-- the program of the name assets -/
  antProgramId : Pubkey

/-- 14 days. -/
def leaseGracePeriod : ℤ := 14 * 86400

def i64Max : ℤ := 2 ^ 63 - 1

/-- The key in 32 bytes. -/
def pubkeyOfBytes (bytes : List UInt8) : Pubkey :=
  ⟨⟨ofLeBytes bytes % 2 ^ 256, Nat.mod_lt _ (by norm_num)⟩⟩

/-- The key in `data[a..b]`, which are 32 bytes. -/
def readPubkey (data : List UInt8) (a b : ℕ) : Read Pubkey := do
  let bytes ← slice data a b
  return pubkeyOfBytes bytes

/-- The first bytes of every account of a kind. -/
def discriminator (env : ReadEnv) (name : String) : List UInt8 :=
  (env.sha256 (ascii ("account:" ++ name))).toList.take 8

def checkDiscriminator (env : ReadEnv) (name : String) (data : List UInt8) : Read Unit := do
  let disc ← slice data 0 8
  require (disc = discriminator env name) (.error .invalidAccountState)

/-! ### Records of names -/

/-- The end of a lease. -/
def readLeaseEnd (data : List UInt8) : Read (Option ℤ) :=
  if 122 ≤ data.length then do
    let tag ← index data 113
    if tag = 1 then do
      let endTs ← readLe data 114 122
      return some (signed64 endTs)
    else return none
  else return none

/-- A lease with an end is active up to the end of its grace period. -/
def checkLeaseEnd (endTs : Option ℤ) (currentTimestamp : ℤ) : Read Unit :=
  match endTs with
  | some endTs =>
    require (currentTimestamp ≤ (checkedAddSigned 64 endTs leaseGracePeriod).getD i64Max)
      (.error .arnsRecordNotFound)
  | none => .ok ()

/-- A name is active: bought for good, or leased up to the end of the grace period. -/
def verifyArnsRecordActive (data : List UInt8) (currentTimestamp : ℤ) : Read Unit :=
  if 104 < data.length then do
    let purchaseType ← index data 104
    if purchaseType = 0 then do
      let endTs ← readLeaseEnd data
      checkLeaseEnd endTs currentTimestamp
    else return ()
  else return ()

def readArnsPurchaseType (data : List UInt8) : Read UInt8 := do
  require (104 < data.length) (.error .invalidAccountState)
  index data 104

/-- The asset that controls a name, as four handlers read it. -/
def readArnsAnt (env : ReadEnv) (data : List UInt8) : Read Pubkey := do
  require (72 + 32 ≤ data.length) (.error .invalidAccountState)
  checkDiscriminator env "ArnsRecord" data
  readPubkey data 72 (72 + 32)

def readDemandFactor (env : ReadEnv) (info : AccountInfo) (arnsProgramId : Pubkey) : Read ℕ := do
  require (info.owner = arnsProgramId) (.error .invalidAccountState)
  require (info.key = env.findProgramAddress [ascii "demand_factor"] arnsProgramId)
    (.error .invalidAccountState)
  require (16 ≤ info.data.length) (.error .invalidAccountState)
  checkDiscriminator env "DemandFactor" info.data
  readLe info.data 8 16

/-! ### Accounts of name assets -/

/-- Step over a string: the offset behind it. -/
def skipBorshString (data : List UInt8) (offset : ℕ) : Read ℕ := do
  let lenEnd ← okOr (checkedAdd 64 offset 4) (.error .invalidAccountState)
  require (lenEnd ≤ data.length) (.error .invalidAccountState)
  let len ← readLe data offset lenEnd
  okOr (checkedAdd 64 lenEnd len) (.error .invalidAccountState)

/-- Step over several strings. -/
def skipBorshStrings (data : List UInt8) : ℕ → ℕ → Read ℕ
  | 0, offset => .ok offset
  | n + 1, offset => do
    let offset ← skipBorshString data offset
    skipBorshStrings data n offset

/-- The last known owner in the bytes of an `AntConfig`. -/
def parseLastKnownOwner (data : List UInt8) : Read Pubkey := do
  let offset ← skipBorshStrings data 4 40
  let countEnd ← okOr (checkedAdd 64 offset 4) (.error .invalidAccountState)
  require (countEnd ≤ data.length) (.error .invalidAccountState)
  let kwCount ← readLe data offset countEnd
  let offset ← skipBorshStrings data kwCount countEnd
  let ownerEnd ← okOr (checkedAdd 64 offset 32) (.error .invalidAccountState)
  require (ownerEnd ≤ data.length) (.error .invalidAccountState)
  readPubkey data offset ownerEnd

/-- The account is one of the asset program, at the given address, with the given discriminator. -/
def checkAntAccount (env : ReadEnv) (info : AccountInfo) (expectedPda antProgram : Pubkey)
    (name : String) : Read Unit := do
  require (info.owner = antProgram) (.error .invalidAccountState)
  require (info.key = expectedPda) (.error .invalidAccountState)
  require (info.data ≠ []) (.error .invalidAccountState)
  require (8 ≤ info.data.length) (.error .invalidAccountState)
  checkDiscriminator env name info.data

def antConfigPda (env : ReadEnv) (antMint : Pubkey) : Pubkey :=
  env.findProgramAddress [ascii "ant_config", pubkeyBytes antMint] env.antProgramId

def antRecordPda (env : ReadEnv) (antMint : Pubkey) (undername : List UInt8) : Pubkey :=
  env.findProgramAddress [ascii "ant_record", pubkeyBytes antMint,
    (env.sha256 (env.toLowercase undername)).toList] env.antProgramId

def readAntConfigLastKnownOwner (env : ReadEnv) (info : AccountInfo) (antMint antProgram : Pubkey) :
    Read Pubkey := do
  require (antProgram = env.antProgramId) (.error .invalidAccountState)
  checkAntAccount env info (antConfigPda env antMint) antProgram "AntConfig"
  parseLastKnownOwner info.data

/-- The owner in a record, if there is one, and the number of bytes it takes. -/
def readRecordOwner (data : List UInt8) (offset : ℕ) : Read (Option Pubkey × ℕ) := do
  require (offset < data.length) (.error .invalidAccountState)
  let tag ← index data offset
  if tag = 0 then return (none, 1)
  else do
    let ownerEnd ← okOr ((checkedAdd 64 offset 1).bind fun o => checkedAdd 64 o 32)
      (.error .invalidAccountState)
    require (ownerEnd ≤ data.length) (.error .invalidAccountState)
    let owner ← readPubkey data (offset + 1) (offset + 33)
    return (some owner, 33)

/-- The owner and the last reconciled owner in the bytes of an `AntRecord`. -/
def parseAntRecord (data : List UInt8) : Read (Option Pubkey × Pubkey) := do
  let offset ← okOr (checkedAdd 64 8 32) (.error .invalidAccountState)
  let offset ← skipBorshStrings data 2 offset
  let offset ← okOr (checkedAdd 64 offset 5) (.error .invalidAccountState)
  require (offset < data.length) (.error .invalidAccountState)
  let tag ← index data offset
  let offset ← okOr (checkedAdd 64 offset (if tag = 0 then 1 else 5)) (.error .invalidAccountState)
  let owner ← readRecordOwner data offset
  let offset ← okOr (checkedAdd 64 offset owner.2) (.error .invalidAccountState)
  let lroEnd ← okOr (checkedAdd 64 offset 32) (.error .invalidAccountState)
  require (lroEnd ≤ data.length) (.error .invalidAccountState)
  let lastReconciledOwner ← readPubkey data offset lroEnd
  return (owner.1, lastReconciledOwner)

/-- Who may act for an undername: the owner in its record if the record is fresh and has one, else
the last known owner of the asset. -/
def readAntRecordOwner (env : ReadEnv) (record config : AccountInfo) (antMint : Pubkey)
    (undername : List UInt8) (antProgram : Pubkey) : Read Pubkey := do
  require (antProgram = env.antProgramId) (.error .invalidAccountState)
  checkAntAccount env record (antRecordPda env antMint undername) antProgram "AntRecord"
  let owners ← parseAntRecord record.data
  let lastKnownOwner ← readAntConfigLastKnownOwner env config antMint antProgram
  return if owners.2 ≠ lastKnownOwner then lastKnownOwner else owners.1.getD lastKnownOwner

variable {env : ReadEnv} {data front rest : List UInt8} {offset n : ℕ}

/-! ### On no bytes does a reader stop the program -/

lemma readPubkey_safe {a b : ℕ} (hab : a ≤ b) (hb : b ≤ data.length) :
    Safe (readPubkey data a b) :=
  (Safe.slice hab hb).bind fun _ _ => Safe.ok _

lemma checkDiscriminator_safe (name : String) (h : 8 ≤ data.length) :
    Safe (checkDiscriminator env name data) :=
  (Safe.slice (by omega) h).bind fun _ _ => Safe.require _

lemma readLeaseEnd_safe : Safe (readLeaseEnd data) := by
  unfold readLeaseEnd
  split
  · rename_i hlen
    refine (Safe.index (by omega)).bind fun tag _ => ?_
    split
    · exact (Safe.readLe (by omega) (by omega)).bind fun _ _ => Safe.ok _
    · exact Safe.ok _
  · exact Safe.ok _

lemma verifyArnsRecordActive_safe (now : ℤ) : Safe (verifyArnsRecordActive data now) := by
  unfold verifyArnsRecordActive
  split
  · rename_i hlen
    refine (Safe.index hlen).bind fun _ _ => ?_
    split
    · refine readLeaseEnd_safe.bind fun endTs _ => ?_
      cases endTs with
      | some e => exact Safe.require _
      | none => exact Safe.ok _
    · exact Safe.ok _
  · exact Safe.ok _

lemma readArnsPurchaseType_safe : Safe (readArnsPurchaseType data) :=
  (Safe.require _).bind fun _ h => Safe.index (require_eq_ok.mp h)

lemma readArnsAnt_safe : Safe (readArnsAnt env data) := by
  refine (Safe.require _).bind fun _ h => ?_
  have hlen := require_eq_ok.mp h
  refine (checkDiscriminator_safe _ (by omega)).bind fun _ _ => ?_
  exact readPubkey_safe (by omega) hlen

lemma readDemandFactor_safe (info : AccountInfo) (arnsProgramId : Pubkey) :
    Safe (readDemandFactor env info arnsProgramId) := by
  refine (Safe.require _).bind fun _ _ => (Safe.require _).bind fun _ _ => ?_
  refine (Safe.require _).bind fun _ h => ?_
  have hlen := require_eq_ok.mp h
  refine (checkDiscriminator_safe _ (by omega)).bind fun _ _ => ?_
  exact Safe.readLe (by omega) hlen

lemma skipBorshString_safe : Safe (skipBorshString data offset) := by
  refine (Safe.okOr _ _).bind fun lenEnd hend => (Safe.require _).bind fun _ hlen => ?_
  obtain ⟨-, rfl⟩ := checkedAdd_eq_some.mp (okOr_eq_ok.mp hend)
  exact (Safe.readLe (by omega) (require_eq_ok.mp hlen)).bind fun _ _ => Safe.okOr _ _

lemma skipBorshStrings_safe : Safe (skipBorshStrings data n offset) := by
  induction n generalizing offset with
  | zero => exact Safe.ok _
  | succ n ih => exact skipBorshString_safe.bind fun _ _ => ih

lemma parseLastKnownOwner_safe : Safe (parseLastKnownOwner data) := by
  refine skipBorshStrings_safe.bind fun offset _ => ?_
  refine (Safe.okOr _ _).bind fun countEnd hend => (Safe.require _).bind fun _ hlen => ?_
  obtain ⟨-, rfl⟩ := checkedAdd_eq_some.mp (okOr_eq_ok.mp hend)
  refine (Safe.readLe (by omega) (require_eq_ok.mp hlen)).bind fun kwCount _ => ?_
  refine skipBorshStrings_safe.bind fun offset _ => ?_
  refine (Safe.okOr _ _).bind fun ownerEnd hend => (Safe.require _).bind fun _ hlen => ?_
  obtain ⟨-, rfl⟩ := checkedAdd_eq_some.mp (okOr_eq_ok.mp hend)
  exact readPubkey_safe (by omega) (require_eq_ok.mp hlen)

lemma checkAntAccount_safe (info : AccountInfo) (pda antProgram : Pubkey) (name : String) :
    Safe (checkAntAccount env info pda antProgram name) := by
  refine (Safe.require _).bind fun _ _ => (Safe.require _).bind fun _ _ => ?_
  refine (Safe.require _).bind fun _ _ => (Safe.require _).bind fun _ h => ?_
  exact checkDiscriminator_safe _ (require_eq_ok.mp h)

lemma readAntConfigLastKnownOwner_safe (info : AccountInfo) (antMint antProgram : Pubkey) :
    Safe (readAntConfigLastKnownOwner env info antMint antProgram) := by
  refine (Safe.require _).bind fun _ _ => ?_
  exact (checkAntAccount_safe _ _ _ _).bind fun _ _ => parseLastKnownOwner_safe

lemma readRecordOwner_safe : Safe (readRecordOwner data offset) := by
  refine (Safe.require _).bind fun _ h => ?_
  refine (Safe.index (require_eq_ok.mp h)).bind fun tag _ => ?_
  split
  · exact Safe.ok _
  · refine (Safe.okOr _ _).bind fun ownerEnd hend => (Safe.require _).bind fun _ hlen => ?_
    obtain ⟨o, ho, hend⟩ := Option.bind_eq_some_iff.mp (okOr_eq_ok.mp hend)
    obtain ⟨-, rfl⟩ := checkedAdd_eq_some.mp ho
    obtain ⟨-, rfl⟩ := checkedAdd_eq_some.mp hend
    exact (readPubkey_safe (by omega) (require_eq_ok.mp hlen)).bind fun _ _ => Safe.ok _

lemma parseAntRecord_safe : Safe (parseAntRecord data) := by
  refine (Safe.okOr _ _).bind fun offset _ => skipBorshStrings_safe.bind fun offset _ => ?_
  refine (Safe.okOr _ _).bind fun offset _ => (Safe.require _).bind fun _ h => ?_
  refine (Safe.index (require_eq_ok.mp h)).bind fun tag _ => (Safe.okOr _ _).bind fun offset _ => ?_
  refine readRecordOwner_safe.bind fun owner _ => (Safe.okOr _ _).bind fun offset _ => ?_
  refine (Safe.okOr _ _).bind fun lroEnd hend => (Safe.require _).bind fun _ hlen => ?_
  obtain ⟨-, rfl⟩ := checkedAdd_eq_some.mp (okOr_eq_ok.mp hend)
  exact (readPubkey_safe (by omega) (require_eq_ok.mp hlen)).bind fun _ _ => Safe.ok _

lemma readAntRecordOwner_safe (record config : AccountInfo) (antMint antProgram : Pubkey)
    (undername : List UInt8) :
    Safe (readAntRecordOwner env record config antMint undername antProgram) := by
  refine (Safe.require _).bind fun _ _ => (checkAntAccount_safe _ _ _ _).bind fun _ _ => ?_
  refine parseAntRecord_safe.bind fun owners _ => ?_
  exact (readAntConfigLastKnownOwner_safe _ _ _).bind fun _ _ => Safe.ok _

/-! ### What was encoded is what is read -/

lemma pubkeyOfBytes_pubkeyBytes (k : Pubkey) : pubkeyOfBytes (pubkeyBytes k) = k := by
  have hlt : k.bytes.val < 256 ^ 32 := by
    calc k.bytes.val < 2 ^ 256 := k.bytes.isLt
      _ = 256 ^ 32 := by norm_num
  have hread : ofLeBytes (pubkeyBytes k) = k.bytes.val := ofLeBytes_leBytes hlt
  refine congrArg Pubkey.mk (Fin.ext ?_)
  calc ofLeBytes (pubkeyBytes k) % 2 ^ 256 = k.bytes.val % 2 ^ 256 := by rw [hread]
    _ = k.bytes.val := Nat.mod_eq_of_lt k.bytes.isLt

lemma readPubkey_part {a b : ℕ} {k : Pubkey} (h : data = front ++ (pubkeyBytes k ++ rest))
    (ha : a = front.length) (hb : b = a + 32) : readPubkey data a b = .ok k := by
  rw [readPubkey, slice_part h ha (by rw [hb, pubkeyBytes_length]), ok_bind,
    pubkeyOfBytes_pubkeyBytes]
  rfl

lemma skipBorshString_part {s : List UInt8} (h : data = front ++ (encodeString s ++ rest))
    (ha : offset = front.length) (hs : s.length < 2 ^ 32)
    (hfit : offset + (encodeString s).length < 2 ^ 64) :
    skipBorshString data offset = .ok (offset + (encodeString s).length) := by
  rw [encodeString_length] at hfit
  have hlen : offset + 4 ≤ data.length := by
    rw [h, ha, List.length_append, List.length_append, encodeString_length]
    omega
  have hparts : data = front ++ (leBytes 4 s.length ++ (s ++ rest)) := by
    rw [h, encodeString, List.append_assoc]
  rw [skipBorshString, okOr_checkedAdd (by omega), ok_bind, require_of hlen, ok_bind,
    readLe_part hparts ha rfl (by norm_num; omega), ok_bind, okOr_checkedAdd (by omega),
    encodeString_length, Nat.add_assoc]

lemma skipBorshStrings_part {strs : List (List UInt8)}
    (h : data = front ++ (strs.flatMap encodeString ++ rest)) (ha : offset = front.length)
    (hn : n = strs.length) (hs : ∀ s ∈ strs, s.length < 2 ^ 32)
    (hfit : offset + (strs.flatMap encodeString).length < 2 ^ 64) :
    skipBorshStrings data n offset = .ok (offset + (strs.flatMap encodeString).length) := by
  subst hn
  induction strs generalizing front offset with
  | nil => rfl
  | cons s strs ih =>
    rw [List.flatMap_cons, List.length_append] at hfit ⊢
    rw [List.flatMap_cons, List.append_assoc] at h
    rw [List.length_cons, skipBorshStrings,
      skipBorshString_part h ha (hs s List.mem_cons_self) (by omega), ok_bind,
      ih (by rw [h, List.append_assoc]) (by rw [ha, List.length_append])
        (fun x hx => hs x (List.mem_cons_of_mem s hx)) (by omega), Nat.add_assoc]

/-- The bytes of an account: its discriminator, what is encoded, and whatever else the account
has room for. -/
def accountData (env : ReadEnv) (name : String) (encoded tail : List UInt8) : List UInt8 :=
  discriminator env name ++ (encoded ++ tail)

lemma discriminator_length (name : String) : (discriminator env name).length = 8 := by
  simp [discriminator]

lemma checkDiscriminator_accountData {name : String} {encoded tail : List UInt8} :
    checkDiscriminator env name (accountData env name encoded tail) = .ok () := by
  have hslice : slice (accountData env name encoded tail) 0 8 = (.ok (discriminator env name) :
      Read (List UInt8)) :=
    slice_part (List.nil_append _).symm rfl (by rw [discriminator_length])
  rw [checkDiscriminator, hslice, ok_bind]
  exact require_eq_ok.mpr rfl

end Core
end ArioSolana
