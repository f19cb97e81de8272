import ArioSolana.CoreReaders

/-!
# The readers and the encoders agree

An account begins with a discriminator and the encoding of its fields, and it may be longer than
that. Each reader of the core program, given such an account, returns what was encoded. The time
test for a name accepts exactly the names that are active or in their grace period.
-/

namespace ArioSolana
namespace Core

open Checked Solana Borsh
open Ant (AntConfig AntRecord)
open Arns (ArnsRecord DemandFactor PurchaseType)

variable {env : ReadEnv} {tail : List UInt8}

/-! ### Name assets -/

lemma config_strings_le {c : AntConfig} (hc : c.WithinLimits) :
    ∀ s ∈ [c.name, c.ticker, c.logo, c.description], s.length ≤ 128 := by
  have h1 := hc.name
  have h2 := hc.ticker
  have h3 := hc.logo
  have h4 := hc.description
  simp only [Ant.maxNameLength, Ant.maxTickerLength, Ant.arweaveTxIdLength,
    Ant.maxDescriptionLength] at h1 h2 h3 h4
  simp only [List.forall_mem_cons]
  exact ⟨by omega, by omega, by omega, by omega, by simp⟩

theorem parseLastKnownOwner_encode {c : AntConfig} (hc : c.WithinLimits) :
    parseLastKnownOwner (accountData env "AntConfig" c.encode tail) = .ok c.lastKnownOwner := by
  have hstrs := config_strings_le hc
  have hkw : c.keywords.length ≤ 3 := hc.keywords
  have hkws : ∀ s ∈ c.keywords, s.length ≤ 32 := hc.keyword
  have hlen := flatMap_encodeString_length_le hstrs
  have hkwlen := flatMap_encodeString_length_le hkws
  generalize hS : [c.name, c.ticker, c.logo, c.description] = strs at hstrs hlen
  have hn : 4 = strs.length := by rw [← hS]; rfl
  -- the parts of the buffer, each behind what was read before it
  have hdata : accountData env "AntConfig" c.encode tail =
      (discriminator env "AntConfig" ++ pubkeyBytes c.mint) ++ (strs.flatMap encodeString ++
        (leBytes 4 c.keywords.length ++ (c.keywords.flatMap encodeString ++
          (pubkeyBytes c.lastKnownOwner ++ (leBytes 1 c.bump ++ c.version.encode ++ tail))))) := by
    simp only [accountData, AntConfig.encode, ← hS, encodeVec, List.flatMap_cons, List.flatMap_nil,
      List.append_assoc, List.nil_append]
  generalize accountData env "AntConfig" c.encode tail = data at hdata ⊢
  generalize hfront : discriminator env "AntConfig" ++ pubkeyBytes c.mint = front at hdata
  have hfrontLen : 40 = front.length := by
    rw [← hfront, List.length_append, discriminator_length, pubkeyBytes_length]
  have hend : 40 + (strs.flatMap encodeString).length + 4
      + (c.keywords.flatMap encodeString).length + 32 ≤ data.length := by
    rw [hdata]
    simp only [List.length_append, leBytes_length, pubkeyBytes_length]
    omega
  have hdata₂ : data = (front ++ strs.flatMap encodeString) ++ (leBytes 4 c.keywords.length ++
      (c.keywords.flatMap encodeString ++ (pubkeyBytes c.lastKnownOwner ++
        (leBytes 1 c.bump ++ c.version.encode ++ tail)))) := by
    simp only [hdata, List.append_assoc]
  have hdata₃ : data = (front ++ strs.flatMap encodeString ++ leBytes 4 c.keywords.length) ++
      (c.keywords.flatMap encodeString ++ (pubkeyBytes c.lastKnownOwner ++
        (leBytes 1 c.bump ++ c.version.encode ++ tail))) := by
    simp only [hdata, List.append_assoc]
  have hdata₄ : data = (front ++ strs.flatMap encodeString ++ leBytes 4 c.keywords.length ++
      c.keywords.flatMap encodeString) ++ (pubkeyBytes c.lastKnownOwner ++
        (leBytes 1 c.bump ++ c.version.encode ++ tail)) := by
    simp only [hdata, List.append_assoc]
  rw [parseLastKnownOwner,
    skipBorshStrings_part hdata hfrontLen hn (fun s hs => (hstrs s hs).trans_lt (by norm_num))
      (by omega), ok_bind,
    okOr_checkedAdd (by omega), ok_bind, require_of (by omega), ok_bind,
    readLe_part hdata₂ (by rw [List.length_append, hfrontLen]) rfl (by norm_num; omega), ok_bind,
    skipBorshStrings_part hdata₃ (by simp only [List.length_append, leBytes_length, hfrontLen]) rfl
      (fun s hs => (hkws s hs).trans_lt (by norm_num)) (by omega), ok_bind,
    okOr_checkedAdd (by omega), ok_bind, require_of (by omega), ok_bind,
    readPubkey_part hdata₄ (by simp only [List.length_append, leBytes_length, hfrontLen]) rfl]

/-- The bytes of an optional value are a byte that says whether it is there, and the value. -/
lemma encodeOption_tag {α : Type*} (encode : α → List UInt8) (o : Option α) :
    ∃ value, encodeOption encode o = (if o.isSome then 1 else 0) :: value := by
  cases o with
  | none => exact ⟨[], rfl⟩
  | some x => exact ⟨encode x, rfl⟩

lemma encodePriority_length (priority : Option ℕ) : (encodeOption (leBytes 4) priority).length
    = if priority.isSome then 5 else 1 := by
  cases priority <;> simp [encodeOption]

lemma encodeOwner_length (owner : Option Pubkey) :
    (encodeOption pubkeyBytes owner).length = if owner.isSome then 33 else 1 := by
  cases owner <;> simp [encodeOption, pubkeyBytes_length]

lemma readRecordOwner_part {data front rest : List UInt8} {offset : ℕ} {owner : Option Pubkey}
    (h : data = front ++ (encodeOption pubkeyBytes owner ++ rest)) (ha : offset = front.length)
    (hfit : offset + 33 < 2 ^ 64) :
    readRecordOwner data offset = .ok (owner, (encodeOption pubkeyBytes owner).length) := by
  have hlen : offset + (encodeOption pubkeyBytes owner).length ≤ data.length := by
    rw [h, ha, List.length_append, List.length_append]
    omega
  rw [encodeOwner_length] at hlen ⊢
  cases owner with
  | none =>
    have hsplit : data = front ++ (0 :: rest) := h
    rw [readRecordOwner, require_of (by simp at hlen; omega), ok_bind, index_part hsplit ha,
      ok_bind,
      if_pos rfl]
    rfl
  | some k =>
    have hsplit : data = front ++ (1 :: (pubkeyBytes k ++ rest)) := h
    have hkey : data = (front ++ [1]) ++ (pubkeyBytes k ++ rest) := by
      rw [hsplit, List.append_assoc, List.singleton_append]
    have hend : okOr ((checkedAdd 64 offset 1).bind fun o => checkedAdd 64 o 32)
        (.error .invalidAccountState) = (.ok (offset + 33) : Read ℕ) := by
      refine okOr_eq_ok.mpr (Option.bind_eq_some_iff.mpr ⟨offset + 1, ?_, ?_⟩)
      · exact checkedAdd_eq_some.mpr ⟨by omega, rfl⟩
      · exact checkedAdd_eq_some.mpr ⟨by omega, by omega⟩
    simp only [Option.isSome_some, if_true] at hlen
    rw [readRecordOwner, require_of (by omega), ok_bind, index_part hsplit ha, ok_bind,
      if_neg (by decide), hend, ok_bind, require_of hlen, ok_bind,
      readPubkey_part hkey (by rw [ha, List.length_append, List.length_singleton]) (by omega),
      ok_bind]
    rfl

theorem parseAntRecord_encode {r : AntRecord} (hr : r.WithinLimits) :
    parseAntRecord (accountData env "AntRecord" r.encode tail)
      = .ok (r.owner, r.lastReconciledOwner) := by
  have hundername : r.undername.length ≤ 61 := hr.undername
  have htarget : r.target.length ≤ 128 := hr.target
  have hstrs : ∀ s ∈ [r.undername, r.target], s.length ≤ 128 := by
    simp only [List.forall_mem_cons]
    exact ⟨by omega, htarget, by simp⟩
  have hlen := flatMap_encodeString_length_le hstrs
  generalize hS : [r.undername, r.target] = strs at hstrs hlen
  have hn : 2 = strs.length := by rw [← hS]; rfl
  rw [← hn] at hlen
  obtain ⟨value, htag⟩ := encodeOption_tag (leBytes 4) r.priority
  have hplen := encodePriority_length r.priority
  have holen := encodeOwner_length r.owner
  have hdata : accountData env "AntRecord" r.encode tail =
      (discriminator env "AntRecord" ++ pubkeyBytes r.mint) ++ (strs.flatMap encodeString ++
        ((leBytes 1 r.targetProtocol ++ leBytes 4 r.ttlSeconds) ++
          (encodeOption (leBytes 4) r.priority ++ (encodeOption pubkeyBytes r.owner ++
            (pubkeyBytes r.lastReconciledOwner ++
              (leBytes 1 r.bump ++ r.version.encode ++ tail)))))) := by
    simp only [accountData, AntRecord.encode, ← hS, List.flatMap_cons, List.flatMap_nil,
      List.append_assoc, List.nil_append]
  generalize accountData env "AntRecord" r.encode tail = data at hdata ⊢
  generalize hfront : discriminator env "AntRecord" ++ pubkeyBytes r.mint = front at hdata
  have hfrontLen : 40 = front.length := by
    rw [← hfront, List.length_append, discriminator_length, pubkeyBytes_length]
  have hend : 40 + (strs.flatMap encodeString).length + 5
      + (encodeOption (leBytes 4) r.priority).length
      + (encodeOption pubkeyBytes r.owner).length + 32 ≤ data.length := by
    rw [hdata]
    simp only [List.length_append, leBytes_length, pubkeyBytes_length]
    omega
  have hpriority : data = (front ++ strs.flatMap encodeString ++ leBytes 1 r.targetProtocol ++
      leBytes 4 r.ttlSeconds) ++ ((if r.priority.isSome then 1 else 0) :: (value ++
        (encodeOption pubkeyBytes r.owner ++ (pubkeyBytes r.lastReconciledOwner ++
          (leBytes 1 r.bump ++ r.version.encode ++ tail))))) := by
    simp only [hdata, htag, List.append_assoc, List.cons_append]
  have howner : data = (front ++ strs.flatMap encodeString ++ leBytes 1 r.targetProtocol ++
      leBytes 4 r.ttlSeconds ++ encodeOption (leBytes 4) r.priority) ++
        (encodeOption pubkeyBytes r.owner ++ (pubkeyBytes r.lastReconciledOwner ++
          (leBytes 1 r.bump ++ r.version.encode ++ tail))) := by
    simp only [hdata, List.append_assoc]
  have hlro : data = (front ++ strs.flatMap encodeString ++ leBytes 1 r.targetProtocol ++
      leBytes 4 r.ttlSeconds ++ encodeOption (leBytes 4) r.priority ++
        encodeOption pubkeyBytes r.owner) ++ (pubkeyBytes r.lastReconciledOwner ++
          (leBytes 1 r.bump ++ r.version.encode ++ tail)) := by
    simp only [hdata, List.append_assoc]
  -- the byte before the priority says how long it is
  have hsize : (if (if r.priority.isSome then (1 : UInt8) else 0) = 0 then 1 else 5)
      = (encodeOption (leBytes 4) r.priority).length := by
    rw [hplen]
    cases r.priority <;> rfl
  have hp5 : (encodeOption (leBytes 4) r.priority).length ≤ 5 := by
    rw [hplen]
    split <;> omega
  have ho33 : (encodeOption pubkeyBytes r.owner).length ≤ 33 := by
    rw [holen]
    split <;> omega
  have hp1 : 1 ≤ (encodeOption (leBytes 4) r.priority).length := by
    rw [hplen]
    split <;> omega
  rw [parseAntRecord, okOr_checkedAdd (by norm_num), ok_bind,
    skipBorshStrings_part hdata hfrontLen hn (fun s hs => (hstrs s hs).trans_lt (by norm_num))
      (by omega), ok_bind,
    okOr_checkedAdd (by omega), ok_bind, require_of (by omega), ok_bind,
    index_part hpriority (by simp only [List.length_append, leBytes_length, hfrontLen]), ok_bind,
    hsize, okOr_checkedAdd (by omega), ok_bind,
    readRecordOwner_part howner (by simp only [List.length_append, leBytes_length, hfrontLen])
      (by omega), ok_bind]
  simp only
  rw [okOr_checkedAdd (by omega), ok_bind, okOr_checkedAdd (by omega), ok_bind,
    require_of (by omega), ok_bind,
    readPubkey_part hlro (by simp only [List.length_append, leBytes_length, hfrontLen]) rfl,
      ok_bind]
  rfl

/-! ### Names -/

section

variable {r : ArnsRecord} {data : List UInt8}

/-- The bytes of a name's account before the purchase type. -/
def arnsFront (env : ReadEnv) (r : ArnsRecord) : List UInt8 :=
  discriminator env "ArnsRecord" ++ r.nameHash.toList ++ pubkeyBytes r.owner ++ pubkeyBytes r.ant

/-- The bytes of a name's account behind the end of the lease. -/
def arnsRest (r : ArnsRecord) (tail : List UInt8) : List UInt8 :=
  leBytes 2 r.undernameLimit ++ (leBytes 8 r.purchasePrice ++ (leBytes 1 r.bump ++
    (encodeString r.name ++ (Arns.encodeVersion r.version ++ tail))))

lemma arnsFront_length (env : ReadEnv) (r : ArnsRecord) : 104 = (arnsFront env r).length := by
  simp [arnsFront, discriminator_length, pubkeyBytes_length]

lemma arnsRest_length (r : ArnsRecord) (tail : List UInt8) : 9 ≤ (arnsRest r tail).length := by
  simp only [arnsRest, List.length_append, leBytes_length, encodeString_length]
  omega

lemma arnsData_eq (env : ReadEnv) (r : ArnsRecord) (tail : List UInt8) :
    accountData env "ArnsRecord" r.encode tail =
    arnsFront env r ++ (r.purchaseType.tag :: (Arns.encodeI64 r.startTimestamp ++
      (encodeOption Arns.encodeI64 r.endTimestamp ++ arnsRest r tail))) := by
  simp only [accountData, ArnsRecord.encode, arnsFront, arnsRest, List.append_assoc,
    List.cons_append]

lemma encodeI64_length (z : ℤ) : (Arns.encodeI64 z).length = 8 := leBytes_length 8 _

lemma readLeaseEnd_encode (hr : r.WithinLimits) :
    readLeaseEnd (accountData env "ArnsRecord" r.encode tail) = .ok r.endTimestamp := by
  have hdata := arnsData_eq env r tail
  have hrest := arnsRest_length r tail
  generalize accountData env "ArnsRecord" r.encode tail = data at hdata ⊢
  have hfront := arnsFront_length env r
  obtain ⟨value, htag⟩ := encodeOption_tag Arns.encodeI64 r.endTimestamp
  have hoption : data = (arnsFront env r ++ [r.purchaseType.tag] ++
      Arns.encodeI64 r.startTimestamp) ++ ((if r.endTimestamp.isSome then 1 else 0) ::
        (value ++ arnsRest r tail)) := by
    simp only [hdata, htag, List.append_assoc, List.cons_append, List.nil_append]
  have hat : 113 = (arnsFront env r ++ [r.purchaseType.tag] ++
      Arns.encodeI64 r.startTimestamp).length := by
    simp only [List.length_append, List.length_singleton, encodeI64_length, ← hfront]
  have hlen : 122 ≤ data.length := by
    rw [hoption, List.length_append, ← hat, List.length_cons, List.length_append]
    omega
  rw [readLeaseEnd, if_pos hlen, index_part hoption hat, ok_bind]
  cases hend : r.endTimestamp with
  | none => rfl
  | some e =>
    have hvalue : value = Arns.encodeI64 e := by
      rw [hend] at htag
      exact (List.cons.inj htag).2.symm
    have hread : data = (arnsFront env r ++ [r.purchaseType.tag] ++
        Arns.encodeI64 r.startTimestamp ++ [1]) ++ (leBytes 8 (word64 e) ++ arnsRest r tail) := by
      rw [hoption, hend, hvalue]
      simp only [Option.isSome_some, if_true, List.append_assoc, List.singleton_append,
        Arns.encodeI64]
    rw [if_pos (by rfl), readLe_part hread
      (by rw [List.length_append, ← hat, List.length_singleton]) rfl (word64_lt e), ok_bind,
      signed64_word64 (hr.endTimestamp e hend)]
    rfl

lemma checkLeaseEnd_iff {e now : ℤ} (he : fitsSigned 64 e) :
    checkLeaseEnd (some e) now = .ok () ↔
      now ≤ e ∨ e < now ∧ now ≤ saturatingAddSigned 64 e Arns.gracePeriodSeconds := by
  obtain ⟨hlow, hhigh⟩ := he
  norm_num at hlow hhigh
  simp only [checkLeaseEnd, checkedAddSigned, fitsSigned, saturatingAddSigned, leaseGracePeriod,
    Arns.gracePeriodSeconds, i64Max]
  norm_num
  split
  · rw [Option.getD_some]
    omega
  · rw [Option.getD_none]
    omega

theorem verifyArnsRecordActive_encode (hr : r.WithinLimits) (now : ℤ) :
    verifyArnsRecordActive (accountData env "ArnsRecord" r.encode tail) now = .ok () ↔
      r.isActive now = true ∨ r.isInGracePeriod now Arns.gracePeriodSeconds = true := by
  have hdata := arnsData_eq env r tail
  have hfront := arnsFront_length env r
  have hlen : 104 < (accountData env "ArnsRecord" r.encode tail).length := by
    rw [hdata, List.length_append, ← hfront, List.length_cons]
    omega
  rw [verifyArnsRecordActive, if_pos hlen, index_part hdata hfront, ok_bind]
  cases hp : r.purchaseType with
  | permabuy =>
    rw [if_neg (by decide)]
    simp [ArnsRecord.isActive, hp]
  | lease =>
    rw [if_pos (by rfl), readLeaseEnd_encode hr, ok_bind]
    cases hend : r.endTimestamp with
    | none => simp [ArnsRecord.isActive, hp, hend, checkLeaseEnd]
    | some e =>
      rw [checkLeaseEnd_iff (hr.endTimestamp e hend)]
      simp [ArnsRecord.isActive, ArnsRecord.isInGracePeriod, hp, hend]

theorem readArnsPurchaseType_encode :
    readArnsPurchaseType (accountData env "ArnsRecord" r.encode tail) = .ok r.purchaseType.tag := by
  have hdata := arnsData_eq env r tail
  have hfront := arnsFront_length env r
  have hlen : 104 < (accountData env "ArnsRecord" r.encode tail).length := by
    rw [hdata, List.length_append, ← hfront, List.length_cons]
    omega
  rw [readArnsPurchaseType, require_of hlen, ok_bind, index_part hdata hfront]

theorem readArnsAnt_encode :
    readArnsAnt env (accountData env "ArnsRecord" r.encode tail) = .ok r.ant := by
  have hdata := arnsData_eq env r tail
  have hfront := arnsFront_length env r
  have hlen : 72 + 32 ≤ (accountData env "ArnsRecord" r.encode tail).length := by
    rw [hdata, List.length_append, ← hfront]
    omega
  have hant : accountData env "ArnsRecord" r.encode tail =
      (discriminator env "ArnsRecord" ++ r.nameHash.toList ++ pubkeyBytes r.owner) ++
        (pubkeyBytes r.ant ++ (r.purchaseType.tag :: (Arns.encodeI64 r.startTimestamp ++
          (encodeOption Arns.encodeI64 r.endTimestamp ++ arnsRest r tail)))) := by
    rw [hdata]
    simp only [arnsFront, List.append_assoc]
  have hat : 72 = (discriminator env "ArnsRecord" ++ r.nameHash.toList ++
      pubkeyBytes r.owner).length := by
    simp [discriminator_length, pubkeyBytes_length]
  rw [readArnsAnt, require_of hlen, ok_bind, checkDiscriminator_accountData, ok_bind,
    readPubkey_part hant hat rfl]

end

theorem readDemandFactor_encode {d : DemandFactor} (hd : d.WithinLimits) {info : AccountInfo}
    {arnsProgramId : Pubkey} (howner : info.owner = arnsProgramId)
    (hkey : info.key = env.findProgramAddress [ascii "demand_factor"] arnsProgramId)
    (hdata : info.data = accountData env "DemandFactor" d.encode tail) :
    readDemandFactor env info arnsProgramId = .ok d.currentDemandFactor := by
  obtain ⟨rest, hrest⟩ : ∃ rest, accountData env "DemandFactor" d.encode tail =
      discriminator env "DemandFactor" ++ (leBytes 8 d.currentDemandFactor ++ rest) := by
    simp only [accountData, DemandFactor.encode, List.append_assoc]
    exact ⟨_, rfl⟩
  have hlen : 16 ≤ info.data.length := by
    rw [hdata, hrest, List.length_append, List.length_append, discriminator_length, leBytes_length]
    omega
  have hlimit : d.currentDemandFactor < 256 ^ 8 := by
    calc d.currentDemandFactor < 2 ^ 64 := hd.currentDemandFactor
      _ = 256 ^ 8 := by norm_num
  rw [readDemandFactor, require_of howner, ok_bind, require_of hkey, ok_bind, require_of hlen,
    ok_bind, hdata, checkDiscriminator_accountData, ok_bind,
    readLe_part hrest (discriminator_length _).symm rfl hlimit]

/-! ### All readers -/

/-- An account of the asset program that holds an encoding. -/
structure Holds (env : ReadEnv) (info : AccountInfo) (pda : Pubkey) (name : String)
    (encoded : List UInt8) : Prop where
  owner : info.owner = env.antProgramId
  key : info.key = pda
  data : ∃ tail, info.data = accountData env name encoded tail

lemma Holds.check {info : AccountInfo} {pda : Pubkey} {name : String} {encoded : List UInt8}
    (h : Holds env info pda name encoded) :
    checkAntAccount env info pda env.antProgramId name = .ok () := by
  obtain ⟨tail, hdata⟩ := h.data
  have hlen : 8 ≤ info.data.length := by
    rw [hdata, accountData, List.length_append, discriminator_length]
    omega
  have hne : info.data ≠ [] := fun hnil => by simp [hnil] at hlen
  rw [checkAntAccount, require_of h.owner, ok_bind, require_of h.key, ok_bind, require_of hne,
    ok_bind, require_of hlen, ok_bind, hdata, checkDiscriminator_accountData]

theorem readAntConfigLastKnownOwner_encode {c : AntConfig} (hc : c.WithinLimits)
    {info : AccountInfo} {antMint : Pubkey}
    (h : Holds env info (antConfigPda env antMint) "AntConfig" c.encode) :
    readAntConfigLastKnownOwner env info antMint env.antProgramId = .ok c.lastKnownOwner := by
  obtain ⟨tail, hdata⟩ := h.data
  rw [readAntConfigLastKnownOwner, require_of rfl, ok_bind, h.check, ok_bind, hdata,
    parseLastKnownOwner_encode hc]

/-- Who may act for an undername according to its record and the asset's configuration. -/
def effectiveOwner (c : AntConfig) (r : AntRecord) : Pubkey :=
  if r.lastReconciledOwner ≠ c.lastKnownOwner then c.lastKnownOwner
  else r.owner.getD c.lastKnownOwner

theorem readAntRecordOwner_encode {c : AntConfig} {r : AntRecord} (hc : c.WithinLimits)
    (hr : r.WithinLimits) {config record : AccountInfo} {antMint : Pubkey} {undername : List UInt8}
    (hconfig : Holds env config (antConfigPda env antMint) "AntConfig" c.encode)
    (hrecord : Holds env record (antRecordPda env antMint undername) "AntRecord" r.encode) :
    readAntRecordOwner env record config antMint undername env.antProgramId
      = .ok (effectiveOwner c r) := by
  obtain ⟨tail, hdata⟩ := hrecord.data
  rw [readAntRecordOwner, require_of rfl, ok_bind, hrecord.check, ok_bind, hdata,
    parseAntRecord_encode hr, ok_bind, readAntConfigLastKnownOwner_encode hc hconfig, ok_bind]
  rfl

/-- The readers return what the encoders wrote, whatever else the account holds, and on no bytes
does a reader stop the program. -/
structure ReadersAgree (env : ReadEnv) : Prop where
  antRecord : ∀ r : AntRecord, r.WithinLimits → ∀ tail,
    parseAntRecord (accountData env "AntRecord" r.encode tail) = .ok
      (r.owner, r.lastReconciledOwner)
  antConfig : ∀ c : AntConfig, c.WithinLimits → ∀ info antMint,
    Holds env info (antConfigPda env antMint) "AntConfig" c.encode →
    readAntConfigLastKnownOwner env info antMint env.antProgramId = .ok c.lastKnownOwner
  recordOwner : ∀ (c : AntConfig) (r : AntRecord), c.WithinLimits → r.WithinLimits →
    ∀ config record antMint undername,
    Holds env config (antConfigPda env antMint) "AntConfig" c.encode →
    Holds env record (antRecordPda env antMint undername) "AntRecord" r.encode →
    readAntRecordOwner env record config antMint undername env.antProgramId
      = .ok (effectiveOwner c r)
  ant : ∀ (r : ArnsRecord) tail,
    readArnsAnt env (accountData env "ArnsRecord" r.encode tail) = .ok r.ant
  purchaseType : ∀ (r : ArnsRecord) tail,
    readArnsPurchaseType (accountData env "ArnsRecord" r.encode tail) = .ok r.purchaseType.tag
  demandFactor : ∀ d : DemandFactor, d.WithinLimits → ∀ tail info arnsProgramId,
    info.owner = arnsProgramId →
    info.key = env.findProgramAddress [ascii "demand_factor"] arnsProgramId →
    info.data = accountData env "DemandFactor" d.encode tail →
    readDemandFactor env info arnsProgramId = .ok d.currentDemandFactor
  active : ∀ r : ArnsRecord, r.WithinLimits → ∀ tail now,
    verifyArnsRecordActive (accountData env "ArnsRecord" r.encode tail) now = .ok () ↔
      r.isActive now = true ∨ r.isInGracePeriod now Arns.gracePeriodSeconds = true
  safe : ∀ (data : List UInt8) (info record : AccountInfo) (antMint antProgram : Pubkey)
    (undername : List UInt8) (now : ℤ),
    Safe (verifyArnsRecordActive data now) ∧ Safe (readArnsPurchaseType data) ∧
    Safe (readArnsAnt env data) ∧ Safe (readDemandFactor env info antProgram) ∧
    Safe (readAntConfigLastKnownOwner env info antMint antProgram) ∧ Safe (parseAntRecord data) ∧
    Safe (readAntRecordOwner env record info antMint undername antProgram)

/-- **The hand-written readers agree with the encoders.** -/
theorem readers_agree (env : ReadEnv) : ReadersAgree env where
  antRecord _ hr _ := parseAntRecord_encode hr
  antConfig _ hc _ _ h := readAntConfigLastKnownOwner_encode hc h
  recordOwner _ _ hc hr _ _ _ _ hconfig hrecord := readAntRecordOwner_encode hc hr hconfig hrecord
  ant _ _ := readArnsAnt_encode
  purchaseType _ _ := readArnsPurchaseType_encode
  demandFactor _ hd _ _ _ howner hkey hdata := readDemandFactor_encode hd howner hkey hdata
  active _ hr _ now := verifyArnsRecordActive_encode hr now
  safe _ _ _ _ _ _ now := ⟨verifyArnsRecordActive_safe now, readArnsPurchaseType_safe,
    readArnsAnt_safe, readDemandFactor_safe _ _, readAntConfigLastKnownOwner_safe _ _ _,
    parseAntRecord_safe, readAntRecordOwner_safe _ _ _ _ _⟩

end Core
end ArioSolana
