import ArioSolana.AntLayouts
import ArioSolana.GarGateway

/-!
# The layout of a gateway account

A gateway account as the program stores it, and its migration to the current version.

Up to version 1.1.0 the schema version was the last field. The operations address was appended
behind it, so what the program reads as the operations address of an older account are bytes that
earlier and longer values left there. A migration therefore never keeps what it has read: it sets
the address to the operator. It needs no luck to read the account, for it first makes room for the
new field. -/

namespace ArioSolana
namespace Gar

open Checked Solana Borsh Anchor
open Ant (pubkeyCodec pubkeyCodec_length)

/-! ### Formats of the parts -/

def boolCodec : Codec Bool := .choice [false, true] (by decide) (by decide)

def protocolCodec : Codec Protocol := .choice [.http, .https] (by decide) (by decide)

def gatewayStatusCodec : Codec GatewayStatus :=
  .choice [.joined, .leaving, .gone] (by decide) (by decide)

def gatewayStatsCodec : Codec GatewayStats :=
  ((Codec.word 4).pair ((Codec.word 4).pair ((Codec.word 4).pair ((Codec.word 4).pair
    ((Codec.word 4).pair ((Codec.word 1).pair (Codec.word 1))))))).record
    (fun x => ⟨x.1, x.2.1, x.2.2.1, x.2.2.2.1, x.2.2.2.2.1, x.2.2.2.2.2.1, x.2.2.2.2.2.2⟩)
    (fun s => (s.passedEpochs, s.failedEpochs, s.totalEpochs, s.prescribedEpochs, s.observedEpochs,
      s.failedConsecutive, s.passedConsecutive)) (fun _ => rfl) (fun _ => rfl)

def gatewayWeightsCodec : Codec GatewayWeights :=
  ((Codec.word 8).pair ((Codec.word 8).pair ((Codec.word 8).pair ((Codec.word 8).pair
    ((Codec.word 8).pair ((Codec.word 8).pair (Codec.word 8))))))).record
    (fun x => ⟨x.1, x.2.1, x.2.2.1, x.2.2.2.1, x.2.2.2.2.1, x.2.2.2.2.2.1, x.2.2.2.2.2.2⟩)
    (fun w => (w.stakeWeight, w.tenureWeight, w.gatewayPerformanceRatio, w.observerPerformanceRatio,
      w.compositeWeight, w.normalizedCompositeWeight, w.weightsEpoch)) (fun _ => rfl) (fun _ => rfl)

def gatewaySettings2Codec : Codec GatewaySettings2 :=
  (boolCodec.pair ((Codec.word 2).pair ((Codec.word 8).pair (boolCodec.pair
    ((Codec.word 2).option.pair (Codec.signed 8).option))))).record
    (fun x => ⟨x.1, x.2.1, x.2.2.1, x.2.2.2.1, x.2.2.2.2.1, x.2.2.2.2.2⟩)
    (fun s => (s.allowDelegatedStaking, s.delegateRewardShareRatio, s.minDelegationAmount,
      s.allowlistEnabled, s.pendingDelegateRewardShareRatio, s.delegationDisabledAt))
    (fun _ => rfl) (fun _ => rfl)

/-! ### The account -/

/-- A gateway account, with a byte that is no longer used and with the bump of its address. -/
structure StoredGateway where
  gateway : Gateway
  /-- `RegistryIndex::_reserved` -/
  reserved : ℕ
  bump : ℕ
deriving DecidableEq

/-- What stands before the version. The fields are in the order of the account: the description, the
stakes and dates, the statistics, weights and settings, and the rest. -/
abbrev GatewayFields : Type :=
  (Pubkey × List UInt8 × List UInt8 × ℕ × Protocol × List UInt8 × List UInt8) ×
  (ℕ × ℕ × GatewayStatus × ℤ × Option ℤ × ℤ) ×
  (GatewayStats × GatewayWeights × GatewaySettings2) ×
  (ℕ × ℕ) × Pubkey × ℕ × ℕ

def StoredGateway.fields (a : StoredGateway) : GatewayFields :=
  ((a.gateway.operator, a.gateway.label, a.gateway.fqdn, a.gateway.port, a.gateway.protocol,
      a.gateway.properties, a.gateway.note),
    (a.gateway.operatorStake, a.gateway.totalDelegatedStake, a.gateway.status,
      a.gateway.startTimestamp, a.gateway.leaveTimestamp, a.gateway.leaveEpochDuration),
    (a.gateway.stats, a.gateway.weights, a.gateway.settings),
    (a.gateway.registryIndex, a.reserved), a.gateway.observerAddress,
    a.gateway.cumulativeRewardPerToken, a.bump)

/-- The account with the given fields. -/
def GatewayFields.account : GatewayFields → SchemaVersion → Pubkey → StoredGateway
  | ((operator, label, fqdn, port, protocol, properties, note),
      (operatorStake, totalDelegatedStake, status, startTimestamp, leaveTimestamp,
        leaveEpochDuration),
      (stats, weights, settings), (registryIndex, reserved), observerAddress,
      cumulativeRewardPerToken, bump), version, operationsAddress =>
    ⟨⟨operator, label, fqdn, port, protocol, properties, note, operatorStake, totalDelegatedStake,
      status, startTimestamp, leaveTimestamp, leaveEpochDuration, stats, weights, settings,
      registryIndex, observerAddress, cumulativeRewardPerToken, version, operationsAddress⟩,
      reserved, bump⟩

def gatewayFieldsCodec : Codec GatewayFields :=
  (pubkeyCodec.pair (Codec.string.pair (Codec.string.pair ((Codec.word 2).pair (protocolCodec.pair
    (Codec.string.pair Codec.string)))))).pair
  (((Codec.word 8).pair ((Codec.word 8).pair (gatewayStatusCodec.pair ((Codec.signed 8).pair
    ((Codec.signed 8).option.pair (Codec.signed 8)))))).pair
  ((gatewayStatsCodec.pair (gatewayWeightsCodec.pair gatewaySettings2Codec)).pair
  (((Codec.word 4).pair (Codec.word 1)).pair
  (pubkeyCodec.pair ((Codec.word 16).pair (Codec.word 1))))))

/-- The layout of 1.1.0. -/
def gatewayV110Codec : Codec (GatewayFields × SchemaVersion) :=
  gatewayFieldsCodec.pair versionCodec

/-- The layout of 1.2.0, with the operations address behind the version. -/
def gatewayCodec : Codec StoredGateway :=
  (gatewayV110Codec.pair pubkeyCodec).record (fun x => GatewayFields.account x.1.1 x.1.2 x.2)
    (fun a => ((a.fields, a.gateway.version), a.gateway.operationsAddress)) (fun _ => rfl)
    (fun _ => rfl)

def gatewayLayout (disc : Vector UInt8 8) : Layout StoredGateway := ⟨disc, gatewayCodec⟩

/-! ### Sizes -/

def gatewayStatsSize : ℕ := 4 + 4 + 4 + 4 + 4 + 1 + 1
def gatewayWeightsSize : ℕ := 8 * 7
def gatewaySettings2Size : ℕ := 1 + 2 + 8 + 1 + 3 + 9
def registryIndexSize : ℕ := 4 + 1

/-- The size of a gateway account: its mark, and its fields at their longest. -/
def gatewaySize : ℕ :=
  8 + 32 + (4 + 64) + (4 + 128) + 2 + 1 + (4 + 256) + (4 + 256) + 8 + 8 + 1 + 8 + 9 + 8
    + gatewayStatsSize + gatewayWeightsSize + gatewaySettings2Size + registryIndexSize + 32 + 16 + 1
    + 3 + 32

/-- The size of an account in the layout of 1.1.0. -/
def gatewaySizeAtV110 : ℕ := 964

lemma gatewaySize_eq : gatewaySize = gatewaySizeAtV110 + 32 := rfl

/-! ### Migration -/

/-- The versions before 1.2.0 that the program has given to accounts. -/
def olderVersions : List SchemaVersion := [⟨0, 0, 0⟩, ⟨1, 0, 0⟩, ⟨1, 1, 0⟩]

/-- How many versions are left to go. -/
def versionsLeft (v : SchemaVersion) : ℕ :=
  if v = ⟨0, 0, 0⟩ then 3 else if v = ⟨1, 0, 0⟩ then 2 else if v = ⟨1, 1, 0⟩ then 1 else 0

/-- `migrate_gateway_version`: one version after the other. Before 1.2.0 there is nothing to fill
in. -/
def migrateGatewayVersion (account : Gateway) : Except AccountError Gateway :=
  if account.version.lt gatewayVersion then
    if _h : account.version = ⟨0, 0, 0⟩ then
      migrateGatewayVersion { account with version := ⟨1, 0, 0⟩ }
    else if _h : account.version = ⟨1, 0, 0⟩ then
      migrateGatewayVersion { account with version := ⟨1, 1, 0⟩ }
    else if _h : account.version = ⟨1, 1, 0⟩ then
      migrateGatewayVersion
        { account with operationsAddress := account.operator, version := ⟨1, 2, 0⟩ }
    else .error .unknownSchemaVersion
  else .ok account
termination_by versionsLeft account.version
decreasing_by all_goals (rw [_h]; decide)

/-- `migrate_gateway`, on the data of the account. -/
def migrateGateway (disc : Vector UInt8 8) (data : List UInt8) :
    Except AccountError (List UInt8) := do
  require (gatewaySizeAtV110 ≤ data.length) .preV110GatewayLayout
  let data := growAccount gatewaySize data
  let account ← (gatewayLayout disc).tryDeserialize data
  require (account.gateway.version.lt gatewayVersion) .alreadyLatestVersion
  let gateway ← migrateGatewayVersion account.gateway
  (gatewayLayout disc).writeAccount { account with gateway } data

/-- An account in the layout of 1.1.0, of the version `v`. -/
structure InV110 (disc : Vector UInt8 8) (fields : GatewayFields) (v : SchemaVersion)
    (data : List UInt8) : Prop where
  size : data.length = gatewaySizeAtV110
  valid : gatewayFieldsCodec.Valid fields
  older : v ∈ olderVersions
  layout : ∃ stale, data = disc.toList ++ gatewayV110Codec.encode (fields, v) ++ stale

/-! ### Proofs -/

section

variable {disc : Vector UInt8 8} {fields : GatewayFields} {v : SchemaVersion} {a : StoredGateway}
  {data data' : List UInt8} {account : Gateway}

lemma gatewayLayout_encode : (gatewayLayout disc).encode a
    = disc.toList ++ gatewayV110Codec.encode (a.fields, a.gateway.version)
      ++ pubkeyCodec.encode a.gateway.operationsAddress :=
  (List.append_assoc _ _ _).symm

lemma gatewayV110Codec_length (fields : GatewayFields) (v : SchemaVersion) :
    (gatewayV110Codec.encode (fields, v)).length
      = (gatewayFieldsCodec.encode fields).length + 3 :=
  List.length_append

lemma gatewayLayout_encode_length : ((gatewayLayout disc).encode a).length
    = 8 + (gatewayFieldsCodec.encode a.fields).length + 35 := by
  rw [gatewayLayout_encode, List.length_append, List.length_append, Vector.length_toList,
    gatewayV110Codec_length, pubkeyCodec_length]
  omega

lemma exists_pubkey (h : 32 ≤ data.length) :
    ∃ k : Pubkey, data = pubkeyCodec.encode k ++ data.drop 32 := by
  have hlen : (data.take 32).length = 32 := by
    rw [List.length_take]
    omega
  have hlt : ofLeBytes (data.take 32) < 2 ^ 256 := by
    have := ofLeBytes_lt (data.take 32)
    rw [hlen] at this
    exact this.trans_eq (by norm_num)
  have hback : leBytes 32 (ofLeBytes (data.take 32)) = data.take 32 := by
    have := leBytes_ofLeBytes (data.take 32)
    rwa [hlen] at this
  refine ⟨⟨⟨ofLeBytes (data.take 32), hlt⟩⟩, ?_⟩
  have hencode : pubkeyCodec.encode ⟨⟨ofLeBytes (data.take 32), hlt⟩⟩
      = leBytes 32 (ofLeBytes (data.take 32)) := rfl
  rw [hencode, hback, List.take_append_drop]

lemma versionCodec_valid_iff : versionCodec.Valid v ↔
    v.major < 256 ^ 1 ∧ v.minor < 256 ^ 1 ∧ v.patch < 256 ^ 1 := Iff.rfl

lemma gatewayVersion_valid : versionCodec.Valid gatewayVersion :=
  versionCodec_valid_iff.mpr (by decide)

lemma versionCodec_valid (h : v ∈ olderVersions) : versionCodec.Valid v := by
  simp only [olderVersions, List.mem_cons, List.not_mem_nil, or_false] at h
  rw [versionCodec_valid_iff]
  rcases h with rfl | rfl | rfl <;> decide

lemma older_lt (h : v ∈ olderVersions) : v.lt gatewayVersion := by
  simp only [olderVersions, List.mem_cons, List.not_mem_nil, or_false] at h
  rcases h with rfl | rfl | rfl <;> decide

lemma migrateGatewayVersion_ok (h : account.version ∈ olderVersions) :
    migrateGatewayVersion account
      = .ok { account with operationsAddress := account.operator, version := gatewayVersion } := by
  have hlast (g : Gateway) (hv : g.version = gatewayVersion) : migrateGatewayVersion g = .ok g := by
    rw [migrateGatewayVersion, if_neg (by rw [hv]; decide)]
  have h110 (g : Gateway) (hv : g.version = ⟨1, 1, 0⟩) : migrateGatewayVersion g
      = .ok { g with operationsAddress := g.operator, version := gatewayVersion } := by
    rw [migrateGatewayVersion, if_pos (by rw [hv]; decide), dif_neg (by rw [hv]; decide),
      dif_neg (by rw [hv]; decide), dif_pos hv]
    exact hlast _ rfl
  have h100 (g : Gateway) (hv : g.version = ⟨1, 0, 0⟩) : migrateGatewayVersion g
      = .ok { g with operationsAddress := g.operator, version := gatewayVersion } := by
    rw [migrateGatewayVersion, if_pos (by rw [hv]; decide), dif_neg (by rw [hv]; decide),
      dif_pos hv]
    exact h110 _ rfl
  simp only [olderVersions, List.mem_cons, List.not_mem_nil, or_false] at h
  rcases h with hv | hv | hv
  · rw [migrateGatewayVersion, if_pos (by rw [hv]; decide), dif_pos hv]
    exact h100 _ rfl
  · exact h100 _ hv
  · exact h110 _ hv

lemma migrateGatewayVersion_eq_ok {migrated : Gateway} (hlt : account.version.lt gatewayVersion)
    (h : migrateGatewayVersion account = .ok migrated) : migrated
      = { account with operationsAddress := account.operator, version := gatewayVersion } := by
  have holder : account.version ∈ olderVersions := by
    by_contra hunknown
    simp only [olderVersions, List.mem_cons, List.not_mem_nil, or_false, not_or] at hunknown
    obtain ⟨h000, h100, h110⟩ := hunknown
    rw [migrateGatewayVersion, if_pos hlt, dif_neg h000, dif_neg h100, dif_neg h110] at h
    cases h
  exact Except.ok.inj (h.symm.trans (migrateGatewayVersion_ok holder))

lemma migrateGateway_read (h : migrateGateway disc data = .ok data') :
    data'.length = gatewaySize ∧ ∃ a, (gatewayLayout disc).tryDeserialize data' = .ok a ∧
      a.gateway.operationsAddress = a.gateway.operator := by
  obtain ⟨_, -, h⟩ := bind_eq_ok.mp h
  obtain ⟨old, hread, h⟩ := bind_eq_ok.mp h
  obtain ⟨_, hlt, h⟩ := bind_eq_ok.mp h
  obtain ⟨migrated, hwalk, hwrite⟩ := bind_eq_ok.mp h
  obtain rfl := migrateGatewayVersion_eq_ok (require_eq_ok.mp hlt) hwalk
  obtain ⟨hold, -⟩ := Layout.tryDeserialize_eq_ok.mp hread
  have hvalid : gatewayCodec.Valid { old with gateway := { old.gateway with
      operationsAddress := old.gateway.operator, version := gatewayVersion } } :=
    ⟨⟨hold.1.1, gatewayVersion_valid⟩, trivial⟩
  exact ⟨(Layout.writeAccount_length hwrite).trans (growAccount_length _ _), _,
    Layout.tryDeserialize_writeAccount hvalid hwrite, rfl⟩

lemma InV110.read (h : InV110 disc fields v data)
    (hread : (gatewayLayout disc).tryDeserialize data = .ok a) :
    a.fields = fields ∧ a.gateway.version = v := by
  obtain ⟨hvalid, rest, hdata⟩ := Layout.tryDeserialize_eq_ok.mp hread
  obtain ⟨stale, hold⟩ := h.layout
  rw [hdata, gatewayLayout_encode, List.append_assoc, List.append_assoc, List.append_assoc] at hold
  have hsame := List.append_cancel_left hold
  have hold : gatewayV110Codec.Valid (fields, v) := ⟨h.valid, versionCodec_valid h.older⟩
  have hpair := (gatewayV110Codec.encode_inj hvalid.1 hold hsame).1
  exact Prod.mk.inj hpair

lemma InV110.fields_eq {fields' : GatewayFields} {v' : SchemaVersion}
    (h : InV110 disc fields v data) (h' : InV110 disc fields' v' data) : fields = fields' := by
  obtain ⟨stale, hdata⟩ := h.layout
  obtain ⟨stale', hdata'⟩ := h'.layout
  rw [hdata, List.append_assoc, List.append_assoc] at hdata'
  have hpair := (gatewayV110Codec.encode_inj ⟨h.valid, versionCodec_valid h.older⟩
    ⟨h'.valid, versionCodec_valid h'.older⟩ (List.append_cancel_left hdata')).1
  exact (Prod.mk.inj hpair).1

/-- **The migration of an older account.** It cannot fail, and sets nothing but the version and the
operations address. -/
theorem migrateGateway_ok (h : InV110 disc fields v data) :
    ∃ data', migrateGateway disc data = .ok data' ∧ data'.length = gatewaySize ∧
      ∃ a, (gatewayLayout disc).tryDeserialize data' = .ok a ∧ a.fields = fields ∧
        a.gateway.version = gatewayVersion ∧ a.gateway.operationsAddress = a.gateway.operator := by
  obtain ⟨stale, hdata⟩ := h.layout
  have hgrow : growAccount gatewaySize data = data ++ List.replicate 32 0 :=
    growAccount_append (by rw [h.size, gatewaySize_eq])
  have hroom : 32 ≤ (stale ++ List.replicate 32 (0 : UInt8)).length := by
    rw [List.length_append, List.length_replicate]
    omega
  -- the new field is read from what earlier values left, and from zeros
  obtain ⟨ops, hops⟩ := exists_pubkey hroom
  have hread : (gatewayLayout disc).tryDeserialize (growAccount gatewaySize data)
      = .ok (fields.account v ops) := by
    refine Layout.tryDeserialize_eq_ok.mpr
      ⟨⟨⟨h.valid, versionCodec_valid h.older⟩, trivial⟩,
        (stale ++ List.replicate 32 0).drop 32, ?_⟩
    rw [hgrow, hdata, List.append_assoc, hops, ← List.append_assoc, gatewayLayout_encode]
    rfl
  have hwalk : migrateGatewayVersion (fields.account v ops).gateway
      = .ok { (fields.account v ops).gateway with
        operationsAddress := (fields.account v ops).gateway.operator
        version := gatewayVersion } := migrateGatewayVersion_ok h.older
  have hfits : ((gatewayLayout disc).encode (fields.account gatewayVersion
      (fields.account v ops).gateway.operator)).length ≤ (growAccount gatewaySize data).length := by
    have hsize := h.size
    rw [hdata, List.length_append, List.length_append, Vector.length_toList,
      gatewayV110Codec_length] at hsize
    rw [gatewayLayout_encode_length, growAccount_length, gatewaySize_eq]
    show 8 + (gatewayFieldsCodec.encode fields).length + 35 ≤ _
    omega
  have hvalid : gatewayCodec.Valid
      (fields.account gatewayVersion (fields.account v ops).gateway.operator) :=
    ⟨⟨h.valid, gatewayVersion_valid⟩, trivial⟩
  have hwrite := Layout.writeAccount_eq_ok.mpr ⟨hfits, rfl⟩
  refine ⟨_, ?_, (Layout.writeAccount_length hwrite).trans (growAccount_length _ _), _,
    Layout.tryDeserialize_writeAccount hvalid hwrite, rfl, rfl, rfl⟩
  have hlt : (fields.account v ops).gateway.version.lt gatewayVersion := older_lt h.older
  rw [migrateGateway, require_of h.size.ge, ok_bind]
  dsimp only
  rw [hread, ok_bind, require_of hlt, ok_bind, hwalk, ok_bind]
  exact hwrite

end

end Gar
end ArioSolana
