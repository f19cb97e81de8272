import ArioSolana.Bytes
import ArioSolana.Borsh

/-!
# Names and demand

The accounts of the name program that other programs read: the record of a name, leased or bought
for good, and the demand factor that prices are scaled by.
-/

namespace ArioSolana
namespace Arns

open Checked Solana Borsh

/-- 14 days. -/
def gracePeriodSeconds : ℤ := 14 * 86400

def maxNameLength : ℕ := 51

def movingAvgPeriodCount : ℕ := 7

def numNameLengthFees : ℕ := 51

inductive PurchaseType where
  | lease
  | permabuy
deriving DecidableEq

def PurchaseType.tag : PurchaseType → UInt8
  | .lease => 0
  | .permabuy => 1

structure ArnsRecord where
  nameHash : Bytes32
  owner : Pubkey
  /-- the asset that controls the name -/
  ant : Pubkey
  purchaseType : PurchaseType
  startTimestamp : ℤ
  endTimestamp : Option ℤ
  undernameLimit : ℕ
  purchasePrice : ℕ
  bump : ℕ
  name : List UInt8
  version : ℕ × ℕ × ℕ

/-- A permabuy is always active, a lease up to and at its end. -/
def ArnsRecord.isActive (r : ArnsRecord) (timestamp : ℤ) : Bool :=
  match r.purchaseType with
  | .permabuy => true
  | .lease => match r.endTimestamp with
    | some e => timestamp ≤ e
    | none => true

/-- The name has expired, but not for longer than the grace period. -/
def ArnsRecord.isInGracePeriod (r : ArnsRecord) (timestamp gracePeriod : ℤ) : Bool :=
  match r.purchaseType with
  | .permabuy => false
  | .lease => match r.endTimestamp with
    | some e => e < timestamp && timestamp ≤ saturatingAddSigned 64 e gracePeriod
    | none => false

structure DemandFactor where
  currentDemandFactor : ℕ
  currentPeriod : ℕ
  purchasesThisPeriod : ℕ
  revenueThisPeriod : ℕ
  consecutivePeriodsWithMinDemandFactor : ℕ
  trailingPeriodPurchases : Vector ℕ movingAvgPeriodCount
  trailingPeriodRevenues : Vector ℕ movingAvgPeriodCount
  fees : Vector ℕ numNameLengthFees
  periodZeroStartTimestamp : ℤ
  criteria : ℕ
  bump : ℕ
  version : ℕ × ℕ × ℕ

/-! ### Encodings -/

def encodeVersion (v : ℕ × ℕ × ℕ) :
    List UInt8 := leBytes 1 v.1 ++ leBytes 1 v.2.1 ++ leBytes 1 v.2.2

/-- A signed word of 64 bits. -/
def encodeI64 (z : ℤ) : List UInt8 := leBytes 8 (word64 z)

def ArnsRecord.encode (r : ArnsRecord) : List UInt8 :=
  r.nameHash.toList ++ (pubkeyBytes r.owner ++ (pubkeyBytes r.ant ++ (r.purchaseType.tag ::
    (encodeI64 r.startTimestamp ++ (encodeOption encodeI64 r.endTimestamp ++
      (leBytes 2 r.undernameLimit ++ (leBytes 8 r.purchasePrice ++ (leBytes 1 r.bump ++
        (encodeString r.name ++ encodeVersion r.version)))))))))

def DemandFactor.encode (d : DemandFactor) : List UInt8 :=
  leBytes 8 d.currentDemandFactor ++ (leBytes 8 d.currentPeriod ++
    (leBytes 8 d.purchasesThisPeriod ++ (leBytes 8 d.revenueThisPeriod ++
      (leBytes 4 d.consecutivePeriodsWithMinDemandFactor ++
        (d.trailingPeriodPurchases.toList.flatMap (leBytes 8) ++
          (d.trailingPeriodRevenues.toList.flatMap (leBytes 8) ++
            (d.fees.toList.flatMap (leBytes 8) ++ (encodeI64 d.periodZeroStartTimestamp ++
              (leBytes 1 d.criteria ++ (leBytes 1 d.bump ++ encodeVersion d.version))))))))))

/-- The times are words. -/
structure ArnsRecord.WithinLimits (r : ArnsRecord) : Prop where
  endTimestamp : ∀ e ∈ r.endTimestamp, fitsSigned 64 e
  name : r.name.length ≤ maxNameLength

structure DemandFactor.WithinLimits (d : DemandFactor) : Prop where
  currentDemandFactor : d.currentDemandFactor < 2 ^ 64

end Arns
end ArioSolana
