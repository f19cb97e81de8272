import ArioSolana.CorePrimaryNames

/-!
# What the primary-name instructions do

A valid name is plain text with at most one underscore, and stays valid in lower case. For each
instruction: what it needs of the accounts it is given, and what it writes.
-/

namespace ArioSolana
namespace Core

open Checked Solana

/-! ### Valid names -/

/-- An ASCII letter in lower case, any other byte as it is. -/
def asciiLower (b : UInt8) : UInt8 := if 65 ≤ b ∧ b ≤ 90 then b + 32 else b

/-- The lower case of a text in ASCII is taken byte by byte. -/
def LowersAscii (toLowercase : List UInt8 → List UInt8) : Prop :=
  ∀ text, (∀ b ∈ text, b < 128) → toLowercase text = text.map asciiLower

/-- A name as it is stored: in lower case and valid. -/
structure Proper (env : PrimaryNameEnv) (name : List UInt8) : Prop where
  lower : env.toLowercase name = name
  valid : validatePrimaryNameFormat name = .ok ()

section

variable {b : UInt8} {name segment : List UInt8}

lemma asciiLower_toNat (b : UInt8) :
    (asciiLower b).toNat = if 65 ≤ b.toNat ∧ b.toNat ≤ 90 then b.toNat + 32 else b.toNat := by
  have hlow : (65 : UInt8) ≤ b ↔ 65 ≤ b.toNat := UInt8.le_iff_toNat_le
  have hhigh : b ≤ (90 : UInt8) ↔ b.toNat ≤ 90 := UInt8.le_iff_toNat_le
  have hadd : (b + 32).toNat = (b.toNat + 32) % 2 ^ 8 := UInt8.toNat_add b 32
  unfold asciiLower
  simp only [hlow, hhigh]
  split
  · rw [hadd]
    omega
  · rfl

lemma alphanumeric_iff : Ant.isAsciiAlphanumeric b ↔
    (48 ≤ b.toNat ∧ b.toNat ≤ 57) ∨ (65 ≤ b.toNat ∧ b.toNat ≤ 90) ∨
      (97 ≤ b.toNat ∧ b.toNat ≤ 122) := by
  simp only [Ant.isAsciiAlphanumeric, Bool.or_eq_true, Bool.and_eq_true, decide_eq_true_eq,
    UInt8.le_iff_toNat_le, or_assoc]
  rfl

lemma alphanumeric_asciiLower (b : UInt8) :
    Ant.isAsciiAlphanumeric (asciiLower b) = Ant.isAsciiAlphanumeric b := by
  have h := asciiLower_toNat b
  rw [Bool.eq_iff_iff, alphanumeric_iff, alphanumeric_iff]
  split at h <;> omega

lemma asciiLower_eq_iff {c : UInt8} (hc : c = 45 ∨ c = 95) : asciiLower b = c ↔ b = c := by
  have h := asciiLower_toNat b
  have hc : c.toNat = 45 ∨ c.toNat = 95 := hc.imp (congrArg UInt8.toNat) (congrArg UInt8.toNat)
  rw [← UInt8.toNat_inj, ← UInt8.toNat_inj]
  split at h <;> omega

lemma asciiLower_asciiLower (b : UInt8) : asciiLower (asciiLower b) = asciiLower b := by
  have h := asciiLower_toNat b
  have h' := asciiLower_toNat (asciiLower b)
  rw [← UInt8.toNat_inj, h']
  split at h <;> split <;> omega

lemma lt_128_iff : b < 128 ↔ b.toNat < 128 := UInt8.lt_iff_toNat_lt

lemma asciiLower_lt (h : b < 128) : asciiLower b < 128 := by
  have hlow := asciiLower_toNat b
  rw [lt_128_iff] at h ⊢
  split at hlow <;> omega

lemma splitName_eq (h : 95 ∈ name) :
    name = name.takeWhile (· ≠ 95) ++ 95 :: (name.dropWhile (· ≠ 95)).tail := by
  have hdrop : name.dropWhile (· ≠ 95) = 95 :: (name.dropWhile (· ≠ 95)).tail := by
    induction name with
    | nil => simp at h
    | cons c rest ih =>
      by_cases hc : c = 95
      · simp [hc]
      · have hmem : 95 ∈ rest := (List.mem_cons.mp h).resolve_left (Ne.symm hc)
        simpa [hc] using ih hmem
  conv_lhs => rw [← List.takeWhile_append_dropWhile (p := fun b : UInt8 => decide (b ≠ 95))
    (l := name), hdrop]

lemma splitName_map : splitName (name.map asciiLower) =
    ((splitName name).1.map (List.map asciiLower), (splitName name).2.map asciiLower) := by
  have hcomp : (fun b : UInt8 => decide (b ≠ 95)) ∘ asciiLower = fun b => decide (b ≠ 95) := by
    funext b
    simp [asciiLower_eq_iff (.inr rfl)]
  have hmem : 95 ∈ name.map asciiLower ↔ 95 ∈ name := by
    simp [asciiLower_eq_iff (.inr rfl)]
  unfold splitName
  by_cases h : 95 ∈ name
  · rw [if_pos h, if_pos (hmem.mpr h), List.takeWhile_map, List.dropWhile_map, hcomp,
      List.map_tail]
    rfl
  · rw [if_neg h, if_neg (mt hmem.mp h)]
    rfl

lemma isValidNameSegment_map :
    isValidNameSegment (segment.map asciiLower) = isValidNameSegment segment := by
  have hall : (segment.map asciiLower).all Ant.isAsciiAlphanumeric =
      segment.all Ant.isAsciiAlphanumeric := by
    rw [List.all_map]
    exact congrArg segment.all (funext alphanumeric_asciiLower)
  have hinner : ((segment.map asciiLower).all fun b => Ant.isAsciiAlphanumeric b || b == 45) =
      segment.all fun b => Ant.isAsciiAlphanumeric b || b == 45 := by
    rw [List.all_map]
    refine congrArg segment.all (funext fun b => ?_)
    rw [Function.comp_apply, alphanumeric_asciiLower, Bool.eq_iff_iff]
    simp [asciiLower_eq_iff (.inl rfl)]
  have hends : ∀ o : Option UInt8, (o.map asciiLower).all Ant.isAsciiAlphanumeric =
      o.all Ant.isAsciiAlphanumeric := by
    intro o
    cases o with
    | none => rfl
    | some b => exact alphanumeric_asciiLower b
  simp only [isValidNameSegment, List.map_eq_nil_iff, List.length_map, List.head?_map,
    List.getLast?_map, hall, hinner, hends]

lemma validatePrimaryNameFormat_map :
    validatePrimaryNameFormat (name.map asciiLower) = validatePrimaryNameFormat name := by
  simp only [validatePrimaryNameFormat, baseName, splitName_map, List.map_eq_nil_iff,
    List.length_map, isValidNameSegment_map, ne_eq]
  cases (splitName name).1 with
  | none => rfl
  | some undername =>
    simp only [Option.map_some, List.map_eq_nil_iff, List.length_map, isValidNameSegment_map]
    rfl

lemma isValidNameSegment_lt (h : isValidNameSegment segment) : ∀ b ∈ segment, b < 128 := by
  have hall : segment.all fun b => Ant.isAsciiAlphanumeric b || b == 45 := by
    unfold isValidNameSegment at h
    split at h
    · cases h
    · split at h
      · refine List.all_eq_true.mpr fun b hb => ?_
        rw [List.all_eq_true.mp h b hb, Bool.true_or]
      · split at h
        · cases h
        · exact h
  intro b hb
  have hb := List.all_eq_true.mp hall b hb
  rw [Bool.or_eq_true, alphanumeric_iff, beq_iff_eq, ← UInt8.toNat_inj] at hb
  have h45 : (45 : UInt8).toNat = 45 := rfl
  rw [lt_128_iff]
  omega

lemma validatePrimaryNameFormat_lt (h : validatePrimaryNameFormat name = .ok ()) :
    ∀ b ∈ name, b < 128 := by
  simp only [validatePrimaryNameFormat, bind_eq_ok, require_eq_ok, exists_const] at h
  obtain ⟨-, -, -, hbase, -, hunder⟩ := h
  have hbase := isValidNameSegment_lt hbase
  unfold baseName at hbase
  unfold splitName at hbase hunder
  split at hbase
  · rename_i hmem
    rw [if_pos hmem] at hunder
    simp only [bind_eq_ok, require_eq_ok, exists_const] at hunder
    have hunder := isValidNameSegment_lt hunder.2
    intro b hb
    rw [splitName_eq hmem, List.mem_append, List.mem_cons] at hb
    rcases hb with hb | rfl | hb
    · exact hunder b hb
    · decide
    · exact hbase b hb
  · exact hbase

lemma Proper.of_valid {env : PrimaryNameEnv} (hlower : LowersAscii env.toLowercase)
    (h : validatePrimaryNameFormat name = .ok ()) : Proper env (env.toLowercase name) := by
  have hlt := validatePrimaryNameFormat_lt h
  rw [hlower name hlt]
  constructor
  · rw [hlower]
    · rw [List.map_map]
      exact congrArg (name.map ·) (funext asciiLower_asciiLower)
    · intro b hb
      obtain ⟨c, hc, rfl⟩ := List.mem_map.mp hb
      exact asciiLower_lt (hlt c hc)
  · rw [validatePrimaryNameFormat_map, h]

end

/-! ### Owners of names -/

/-- Among the accounts are the record of a base name, which is active, and the accounts of its
asset, and these make `k` the owner of the record `undername`. -/
def OwnsName (env : PrimaryNameEnv) (clock : ℤ) (arnsProgramId : Pubkey)
    (accounts : List AccountInfo) (base undername : List UInt8) (k : Pubkey) : Prop :=
  ∃ record ∈ accounts, ∃ antRecord ∈ accounts, ∃ antConfig ∈ accounts, ∃ ant,
    record.owner = arnsProgramId ∧ record.key = arnsRecordPda env.toReadEnv base arnsProgramId ∧
    verifyArnsRecordActive record.data clock = .ok () ∧
    readArnsAnt env.toReadEnv record.data = .ok ant ∧
    readAntRecordOwner env.toReadEnv antRecord antConfig ant undername env.antProgramId = .ok k

/-- Among the accounts is the record of a base name, which is active. -/
def ActiveName (env : PrimaryNameEnv) (clock : ℤ) (arnsProgramId : Pubkey)
    (accounts : List AccountInfo) (base : List UInt8) : Prop :=
  ∃ record ∈ accounts, record.owner = arnsProgramId ∧
    record.key = arnsRecordPda env.toReadEnv base arnsProgramId ∧
    verifyArnsRecordActive record.data clock = .ok ()

def NamePayment.infos (p : NamePayment) : List AccountInfo := p.remaining.map (·.info)

section

variable {α : Type} {env : PrimaryNameEnv} {clock : ℤ} {p : NamePayment} {name base : List UInt8}
  {undername : List UInt8} {s s' : PrimaryNameState} {hash : Bytes32} {x : Read α} {a : α}
  {owner k antProgramId arnsProgramId : Pubkey} {accounts : List AccountInfo} {count : ℕ}
  {fundingAccounts : List Gar.AccountMeta} {record antRecord antConfig : AccountInfo}
  {ant : Pubkey} {remaining : List AccountInfo} {initiator : Pubkey} {e : PrimaryNameError}

@[simp] lemma reading_eq_ok : reading x = .ok a ↔ x = .ok a := by
  cases x with
  | ok b => simp [reading, Except.mapError]
  | error e => simp [reading, Except.mapError]

lemma readAntRecordOwner_program
    (h : readAntRecordOwner env.toReadEnv antRecord antConfig ant undername antProgramId = .ok k) :
    antProgramId = env.antProgramId := by
  simp only [readAntRecordOwner, bind_eq_ok, require_eq_ok, exists_const] at h
  exact h.1

lemma split_subset (h : p.split count = .ok (accounts, fundingAccounts)) :
    accounts ⊆ p.infos := by
  unfold NamePayment.split at h
  split at h
  · simp only [pure_eq_ok, Prod.mk.injEq] at h
    exact h.1 ▸ List.Subset.refl _
  · simp only [bind_eq_ok, require_eq_ok, exists_const, pure_eq_ok, Prod.mk.injEq] at h
    rw [← h.2.2.1]
    exact List.map_subset _ (List.take_subset _ _)

lemma validateArnsRecordExists_ok
    (h : validateArnsRecordExists env.toReadEnv record arnsProgramId base clock = .ok ()) :
    record.owner = arnsProgramId ∧ record.key = arnsRecordPda env.toReadEnv base arnsProgramId ∧
      verifyArnsRecordActive record.data clock = .ok () := by
  simp only [validateArnsRecordExists, bind_eq_ok, require_eq_ok, exists_const] at h
  obtain ⟨howner, hkey, -, -, _, -, hactive⟩ := h
  exact ⟨howner, hkey, hactive⟩

lemma checkNameOwner_ok (h : checkNameOwner env.toReadEnv clock arnsProgramId remaining base
    undername
    k antProgramId = .ok ()) : OwnsName env clock arnsProgramId remaining base undername k := by
  simp only [checkNameOwner, bind_eq_ok, okOr_eq_ok, require_eq_ok, reading_eq_ok,
    exists_const] at h
  obtain ⟨record, hrecord, howner, hkey, _, hactive, ant, hant, antConfig, hconfig, antRecord,
    hantRecord, recordOwner, hread, rfl⟩ := h
  obtain rfl := readAntRecordOwner_program hread
  exact ⟨record, List.mem_of_getElem? hrecord, antRecord, List.mem_of_getElem? hantRecord,
    antConfig, List.mem_of_getElem? hconfig, ant, howner, hkey, hactive, hant, hread⟩

/-! ### The instructions -/

/-- A request is written for an address that has none. -/
structure Requested (env : PrimaryNameEnv) (clock : ℤ) (p : NamePayment) (name : List UInt8)
    (s s' : PrimaryNameState) : Prop where
  free : s.requests p.initiator = none
  valid : validatePrimaryNameFormat name = .ok ()
  active : ActiveName env clock s.config.arnsProgram p.infos (baseName (env.toLowercase name))
  requests : s'.requests = Function.update s.requests p.initiator (some
    ⟨p.initiator, env.toLowercase name, clock, clock + s.config.primaryNameRequestExpiry,
      env.requestBump p.initiator, primaryNameVersion⟩)
  primaryNames : s'.primaryNames = s.primaryNames
  reverses : s'.reverses = s.reverses

lemma requestPrimaryName_ok (h : requestPrimaryName env clock p name s = .ok s') :
    Requested env clock p name s s' := by
  simp only [requestPrimaryName, bind_eq_ok, okOr_eq_ok, require_eq_ok, reading_eq_ok,
    exists_const, pure_eq_ok, checkedAddSigned_eq_some] at h
  obtain ⟨hfree, _, -, _, hvalid, ⟨accounts, funding⟩, hsplit, record, hrecord, _, hexists, demand,
    -, fee,
    -, gar, -, expiresAt, ⟨-, rfl⟩, rfl⟩ := h
  obtain ⟨howner, hkey, hactive⟩ := validateArnsRecordExists_ok hexists
  exact ⟨hfree, hvalid, ⟨record, split_subset hsplit (List.mem_of_getElem? hrecord), howner, hkey,
    hactive⟩, rfl, rfl, rfl⟩

lemma closeExpiredRequest_ok (h : closeExpiredRequest env clock initiator s = .ok s') :
    (∃ q, s.requests initiator = some q ∧ q.expiresAt ≤ clock) ∧
      s' = s.setRequest initiator none := by
  simp only [closeExpiredRequest, bind_eq_ok, okOr_eq_ok, require_eq_ok, exists_const,
    pure_eq_ok] at h
  obtain ⟨q, hget, -, hexpired, rfl⟩ := h
  exact ⟨⟨q, hget, of_decide_eq_true hexpired⟩, rfl⟩

/-- The two accounts of a name are written, for an address that has no other name and a name that
has no other address. -/
structure Named (env : PrimaryNameEnv) (clock : ℤ) (owner : Pubkey) (name : List UInt8)
    (hash : Bytes32) (s s' : PrimaryNameState) : Prop where
  free : ∀ x, s.primaryNames owner = some x → x.owner = .default ∨ x.name = name
  free' : ∀ r, s.reverses hash = some r → r.owner = .default ∨ r.owner = owner
  primaryNames : s'.primaryNames = Function.update s.primaryNames owner (some
    ⟨owner, name, clock, env.primaryNameBump owner, primaryNameVersion⟩)
  reverses : s'.reverses = Function.update s.reverses hash (some
    ⟨name, owner, env.reverseBump hash, primaryNameVersion⟩)

lemma writePrimaryName_ok (h : writePrimaryName env clock owner name hash s = .ok s') :
    Named env clock owner name hash s s' ∧ s'.requests = s.requests := by
  simp only [writePrimaryName, bind_eq_ok, require_eq_ok, exists_const, pure_eq_ok] at h
  obtain ⟨hname, hreverse, rfl⟩ := h
  refine ⟨⟨fun x hx => ?_, fun r hr => ?_, rfl, rfl⟩, rfl⟩
  · rw [hx, Option.getD_some] at hname
    tauto
  · rw [hr, Option.getD_some] at hreverse
    tauto

lemma requestAndSetPrimaryName_ok
    (h : requestAndSetPrimaryName env clock p name hash antProgramId s = .ok s') :
    validatePrimaryNameFormat name = .ok () ∧ hash = env.sha256 (env.toLowercase name) ∧
      OwnsName env clock s.config.arnsProgram p.infos (baseName (env.toLowercase name))
        (recordName (env.toLowercase name)) p.initiator ∧
      Named env clock p.initiator (env.toLowercase name) hash s s' ∧ s'.requests = s.requests := by
  simp only [requestAndSetPrimaryName, bind_eq_ok, okOr_eq_ok, require_eq_ok, reading_eq_ok,
    exists_const] at h
  obtain ⟨_, -, _, hvalid, hhash, ⟨accounts, funding⟩, hsplit, record, hrecord, _, hexists, ant,
    hant,
    antConfig, hconfig, antRecord, hantRecord, recordOwner, hread, rfl, demand, -, fee, -, gar, -,
    hwrite⟩ := h
  obtain ⟨howner, hkey, hactive⟩ := validateArnsRecordExists_ok hexists
  obtain rfl := readAntRecordOwner_program hread
  have hsub := split_subset hsplit
  obtain ⟨⟨hfree, hfree', hnames, hreverses⟩, hrequests⟩ := writePrimaryName_ok hwrite
  refine ⟨hvalid, hhash, ⟨record, hsub (List.mem_of_getElem? hrecord), antRecord,
    hsub (List.mem_of_getElem? hantRecord), antConfig, hsub (List.mem_of_getElem? hconfig), ant,
    howner, hkey, hactive, hant, ?_⟩, ⟨hfree, hfree', hnames, hreverses⟩, hrequests⟩
  exact hread

lemma approvePrimaryName_ok
    (h : approvePrimaryName env clock k initiator hash antProgramId remaining s = .ok s') :
    ∃ q, s.requests initiator = some q ∧ q.initiator = initiator ∧ clock < q.expiresAt ∧
      hash = env.sha256 q.name ∧
      OwnsName env clock s.config.arnsProgram remaining (baseName (env.toLowercase q.name))
        (recordName (env.toLowercase q.name)) k ∧
      Named env clock initiator q.name hash s s' ∧
      s'.requests = Function.update s.requests initiator none := by
  simp only [approvePrimaryName, bind_eq_ok, okOr_eq_ok, require_eq_ok, exists_const,
    pure_eq_ok] at h
  obtain ⟨q, hget, ⟨rfl, -⟩, hhash, hopen, _, hcheck, s₁, hwrite, rfl⟩ := h
  obtain ⟨⟨hfree, hfree', hnames, hreverses⟩, hrequests⟩ := writePrimaryName_ok hwrite
  refine ⟨q, hget, rfl, ?_, hhash, checkNameOwner_ok hcheck,
    ⟨hfree, hfree', hnames, hreverses⟩, ?_⟩
  · simpa [PrimaryNameRequest.isExpired] using hopen
  · change Function.update s₁.requests _ _ = _
    rw [hrequests]

/-- The two accounts of a name are closed. -/
structure Unnamed (env : PrimaryNameEnv) (owner : Pubkey) (x : PrimaryName)
    (s s' : PrimaryNameState) : Prop where
  was : s.primaryNames owner = some x
  primaryNames : s'.primaryNames = Function.update s.primaryNames owner none
  reverses : s'.reverses =
    Function.update s.reverses (env.sha256 (env.toLowercase x.name)) none
  requests : s'.requests = s.requests

lemma loadPrimaryName_ok {x : PrimaryName} (h : loadPrimaryName env owner hash e s = .ok x) :
    s.primaryNames owner = some x := by
  simp only [loadPrimaryName, bind_eq_ok, okOr_eq_ok, require_eq_ok, exists_const, pure_eq_ok] at h
  obtain ⟨x, hget, -, -, -, -, -, rfl⟩ := h
  exact hget

lemma removePrimaryName_ok (h : removePrimaryName env owner hash s = .ok s') :
    ∃ x, Unnamed env owner x s s' := by
  simp only [removePrimaryName, bind_eq_ok, require_eq_ok, exists_const, pure_eq_ok] at h
  obtain ⟨x, hload, rfl, rfl⟩ := h
  exact ⟨x, loadPrimaryName_ok hload, rfl, rfl, rfl⟩

lemma removePrimaryNameForBaseName_ok
    (h : removePrimaryNameForBaseName env clock k owner hash antProgramId remaining s = .ok s') :
    ∃ x, Unnamed env owner x s s' ∧ OwnsName env clock s.config.arnsProgram remaining
      (baseName (env.toLowercase x.name)) (ascii "@") k := by
  simp only [removePrimaryNameForBaseName, bind_eq_ok, require_eq_ok, exists_const,
    pure_eq_ok] at h
  obtain ⟨x, hload, rfl, _, hcheck, rfl⟩ := h
  exact ⟨x, ⟨loadPrimaryName_ok hload, rfl, rfl, rfl⟩, checkNameOwner_ok hcheck⟩

end

end Core
end ArioSolana
