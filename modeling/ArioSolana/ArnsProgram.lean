import ArioSolana.ArnsPurchase

/-!
# The name program

Who holds the asset of a name can point the name at another asset, and give a permabuy back. Leases
that have ended are pruned by anybody, either to an auction or, after the time of the auction as
well, for good. Names are reserved by the authority. `NameInstruction` lists the instructions with
what their caller chooses, and `exec` runs one of them; the imports of the migration and the schema
migrations are not among them. -/

namespace ArioSolana
namespace Arns

open Checked Solana

/-! ### What the holder of the asset does -/

/-- The holder of the asset that controls a name. -/
def antHolder (s : NameState) (record : ArnsRecord) : Except NameError Pubkey := do
  let data ← okOr (s.assets record.ant) .invalidAntAsset
  readMplCoreOwner data

/-- Let another asset control the name. -/
def reassignName (env : NameEnv) (clock : ℤ) (caller : Pubkey) (hash : Bytes32) (newAnt : Pubkey)
    (s : NameState) : Except NameError NameState := do
  let record ← loadRecord env s hash
  let antOwner ← antHolder s record
  require (caller = antOwner) .notAntHolder
  require (record.isActive clock) .recordExpired
  require (¬ record.isInGracePeriod clock s.config.gracePeriodSeconds) .inGracePeriod
  require (newAnt ≠ record.ant) .invalidParameter
  return s.setRecord hash (some { record with ant := newAnt })

/-- Close a record: the name is free, and listed no more. -/
def removeRecord (hash : Bytes32) (s : NameState) : Except NameError NameState := do
  let registry ← s.registry.removeNameEntryByHash hash
  return { s with registry }.setRecord hash none

/-- Move a name from its record to an auction. -/
def returnName (env : NameEnv) (clock : ℤ) (hash : Bytes32) (record : ArnsRecord)
    (initiator : Pubkey) (s : NameState) : Except NameError NameState := do
  require ((s.returnedNames hash).isNone) .accountAlreadyInUse
  let s := s.setReturned hash (some {
    name := record.name
    nameHash := hash
    initiator
    returnedAt := clock
    bump := env.bump .returned hash
    version := accountVersion })
  let config ← s.config.scheduleReturnedPrune clock
  let config := { config with
    totalNamesRegistered := saturatingSub config.totalNamesRegistered 1 }
  removeRecord hash { s with config }

/-- Give a permabuy back. -/
def releaseName (env : NameEnv) (clock : ℤ) (caller : Pubkey) (hash : Bytes32) (s : NameState) :
    Except NameError NameState := do
  let record ← loadRecord env s hash
  let antOwner ← antHolder s record
  require (caller = antOwner) .notAntHolder
  require (record.purchaseType = .permabuy) .cannotReleaseLease
  require (record.isActive clock) .recordExpired
  returnName env clock hash record caller s

/-! ### Pruning -/

/-- A lease has ended more than `wait` ago; the sum stops at the last time. -/
def ArnsRecord.endedBefore (record : ArnsRecord) (clock : ℤ) (wait : ℤ → ℤ) : Bool :=
  match record.purchaseType with
  | .permabuy => false
  | .lease => match record.endTimestamp with
    | some endTs => wait endTs < clock
    | none => false

/-- Move the name of a lease that ended to an auction. -/
def pruneToReturned (env : NameEnv) (clock : ℤ) (hash : Bytes32) (s : NameState) :
    Except NameError NameState := do
  let record ← loadRecord env s hash
  require (record.endedBefore clock fun endTs =>
    saturatingAddSigned 64 endTs s.config.gracePeriodSeconds) .nameStillActive
  returnName env clock hash record env.configKey s

/-- The address of an account that the caller passes for pruning. -/
inductive NameAddress where
  | name (kind : NameAccount) (hash : Bytes32)
  | other (key : Pubkey)
deriving DecidableEq

/-- Prune one record, if it is past the grace period and the time of an auction. An account that is
not the record at its own address is left out. -/
def pruneExpiredAt (clock : ℤ) (acc : NameState × ℕ) :
    NameAddress → Except NameError (NameState × ℕ)
  | .name .record hash => do
    let (s, pruned) := acc
    match s.records hash with
    | none => return acc
    | some record =>
      if record.endedBefore clock (fun endTs => saturatingAddSigned 64
          (saturatingAddSigned 64 endTs gracePeriodSeconds) s.config.returnAuctionDurationSeconds) ∧
          record.nameHash = hash then do
        let s ← removeRecord hash s
        return (s, pruned + 1)
      else return acc
  | _ => return acc

/-- Prune the records passed, at most `maxNames` of them. -/
def pruneExpired (clock : ℤ) (remaining : List NameAddress) (maxNames : ℕ) (s : NameState) :
    Except NameError NameState := do
  let (s, pruned) ← (remaining.take maxNames).foldlM (pruneExpiredAt clock) (s, 0)
  return { s with config := { s.config with
    totalNamesRegistered := saturatingSub s.config.totalNamesRegistered pruned } }

/-- Close one returned name after its auction. -/
def pruneReturnedAt (clock : ℤ) (s : NameState) : NameAddress → NameState
  | .name .returned hash =>
    match s.returnedNames hash with
    | none => s
    | some returned =>
      if saturatingAddSigned 64 returned.returnedAt returnedNameDurationSeconds ≤ clock ∧
          returned.nameHash = hash then s.setReturned hash none
      else s
  | _ => s

/-- Close the returned names passed, at most `maxNames` of them. -/
def pruneReturned (clock : ℤ) (remaining : List NameAddress) (maxNames : ℕ) (s : NameState) :
    NameState :=
  (remaining.take maxNames).foldl (pruneReturnedAt clock) s

/-! ### Reservations -/

structure ReserveNameParams where
  name : List UInt8
  reservedFor : Option Pubkey
  expiresAt : Option ℤ

def reserve (env : NameEnv) (clock : ℤ) (authority : Pubkey) (params : ReserveNameParams)
    (s : NameState) : Except NameError NameState := do
  let hash := hashName env params.name
  require (s.config.authority = authority) .unauthorized
  require ((s.reservedNames hash).isNone) .accountAlreadyInUse
  require (isValidArnsName params.name) .invalidNameFormat
  return s.setReserved hash (some {
    name := env.toLowercase params.name
    reservedFor := params.reservedFor
    expiresAt := params.expiresAt
    reservedBy := authority
    createdAt := clock
    bump := env.bump .reserved hash
    version := accountVersion })

/-- Remove a reservation, as the authority. -/
def unreserve (env : NameEnv) (authority : Pubkey) (hash : Bytes32) (s : NameState) :
    Except NameError NameState := do
  require (s.config.authority = authority) .unauthorized
  let _ ← loadReserved env s hash
  return s.setReserved hash none

/-- The authority claims a reserved name, which is to remove the reservation. -/
def claim (env : NameEnv) (authority : Pubkey) (hash : Bytes32) (s : NameState) :
    Except NameError NameState := unreserve env authority hash s

/-- Remove a reservation that has expired. -/
def pruneExpiredReservation (env : NameEnv) (clock : ℤ) (hash : Bytes32) (s : NameState) :
    Except NameError NameState := do
  let reserved ← loadReserved env s hash
  let expiresAt ← okOr reserved.expiresAt .reservationNotExpired
  require (expiresAt ≤ clock) .reservationNotExpired
  return s.setReserved hash none

/-! ### Administration -/

def createNameRegistry (authority : Pubkey) (s : NameState) : Except NameError NameState := do
  require (s.config.authority = authority) .unauthorized
  let registry ← s.registry.create s.config.authority
  return { s with registry }

def adminExpandNameRegistry (authority : Pubkey) (targetCapacity : ℕ) (s : NameState) :
    Except NameError NameState := do
  require (s.config.authority = authority) .unauthorized
  let registry ← s.registry.expand targetCapacity
  return { s with registry }

def transferAuthority (authority newAuthority : Pubkey) (s : NameState) :
    Except NameError NameState := do
  require (s.config.authority = authority) .unauthorized
  require (newAuthority ≠ Pubkey.default) .invalidParameter
  return { s with config := { s.config with authority := newAuthority } }

/-- Disable the imports of the migration for good. -/
def finalizeMigration (authority : Pubkey) (s : NameState) : Except NameError NameState := do
  require s.config.migrationActive .migrationAlreadyFinalized
  require (s.config.authority = authority) .unauthorized
  return { s with config := { s.config with migrationActive := false } }

/-! ### Instructions -/

/-- An instruction with the accounts and arguments of its caller. -/
inductive NameInstruction where
  | buyName (p : Payment) (params : BuyNameParams)
  | buyReturnedName (p : Payment) (buyerTokenAccount initiatorTokenAccount : Pubkey)
      (params : BuyNameParams)
  | upgradeName (p : Payment) (hash : Bytes32)
  | extendLease (p : Payment) (hash : Bytes32) (years : ℕ)
  | increaseUndernameLimit (p : Payment) (hash : Bytes32) (quantity : ℕ)
  | reassignName (caller : Pubkey) (hash : Bytes32) (newAnt : Pubkey)
  | releaseName (caller : Pubkey) (hash : Bytes32)
  | pruneExpired (remaining : List NameAddress) (maxNames : ℕ)
  | pruneReturned (remaining : List NameAddress) (maxNames : ℕ)
  | pruneToReturned (hash : Bytes32)
  | reserve (authority : Pubkey) (params : ReserveNameParams)
  | claim (authority : Pubkey) (hash : Bytes32)
  | unreserve (authority : Pubkey) (hash : Bytes32)
  | pruneExpiredReservation (hash : Bytes32)
  | updateDemandFactor
  | createNameRegistry (authority : Pubkey)
  | adminExpandNameRegistry (authority : Pubkey) (targetCapacity : ℕ)
  | transferAuthority (authority newAuthority : Pubkey)
  | finalizeMigration (authority : Pubkey)

def NameInstruction.exec (env : NameEnv) (clock : ℤ) (s : NameState) :
    NameInstruction → Except NameError NameState
  | .buyName p params => Arns.buyName env clock p params s
  | .buyReturnedName p buyerTokenAccount initiatorTokenAccount params =>
    Arns.buyReturnedName env clock p buyerTokenAccount initiatorTokenAccount params s
  | .upgradeName p hash => Arns.upgradeName env clock p hash s
  | .extendLease p hash years => Arns.extendLease env clock p hash years s
  | .increaseUndernameLimit p hash quantity => Arns.increaseUndernameLimit env clock p hash
      quantity s
  | .reassignName caller hash newAnt => Arns.reassignName env clock caller hash newAnt s
  | .releaseName caller hash => Arns.releaseName env clock caller hash s
  | .pruneExpired remaining maxNames => Arns.pruneExpired clock remaining maxNames s
  | .pruneReturned remaining maxNames => .ok (Arns.pruneReturned clock remaining maxNames s)
  | .pruneToReturned hash => Arns.pruneToReturned env clock hash s
  | .reserve authority params => Arns.reserve env clock authority params s
  | .claim authority hash => Arns.claim env authority hash s
  | .unreserve authority hash => Arns.unreserve env authority hash s
  | .pruneExpiredReservation hash => Arns.pruneExpiredReservation env clock hash s
  | .updateDemandFactor => rollDemand clock s
  | .createNameRegistry authority => Arns.createNameRegistry authority s
  | .adminExpandNameRegistry authority targetCapacity =>
    Arns.adminExpandNameRegistry authority targetCapacity s
  | .transferAuthority authority newAuthority => Arns.transferAuthority authority newAuthority s
  | .finalizeMigration authority => Arns.finalizeMigration authority s

/-- What happens: an instruction at a time, or anything that other programs do to the gateways, the
tokens and the assets. -/
inductive NameEvent where
  | call (clock : ℤ) (i : NameInstruction)
  | others (gar : Gar.State) (assets : Pubkey → Option (List UInt8))

def NameEvent.exec (env : NameEnv) (s : NameState) : NameEvent → Except NameError NameState
  | .call clock i => i.exec env clock s
  | .others gar assets => .ok { s with gar, assets }

def NameStep (env : NameEnv) (s : NameState) (e : NameEvent) (s' : NameState) : Prop :=
  e.exec env s = .ok s'

/-- The program after its initialization: no name, and no registry yet. -/
structure FreshNames (s : NameState) : Prop where
  initialized : ∃ clock configBump demandBump params,
    initializeArns clock configBump demandBump params = .ok (s.config, s.demand)
  registry : s.registry = .empty
  records : ∀ hash, s.records hash = none
  returnedNames : ∀ hash, s.returnedNames hash = none
  reservedNames : ∀ hash, s.reservedNames hash = none

end Arns
end ArioSolana
