import Mathlib.Tactic.Simps.Basic
import ArioSolana.GarTypes

/-!
# The state of the gateway registry program

`State` holds every account of the program by the seeds of its address, together with the
token accounts of the chain. The settings and the registry exist from initialization on; every
other account may be absent. An instruction that fails leaves no trace, so instructions are
functions to `Except GarError State`.

The second half collects the account checks that the instruction contexts share.
-/

namespace ArioSolana
namespace Gar

open Checked Solana

/-- What the program knows about its surroundings. -/
structure Env where
  /-- the program's settings address, which signs for the stake pool -/
  settingsPda : Pubkey
  /-- the core program's configuration address, which signs for the treasury -/
  arioConfig : Pubkey
  /-- the treasury recorded in the core program's configuration -/
  coreTreasury : Pubkey
  /-- who may upgrade the program -/
  upgradeAuthority : Option Pubkey
  /-- the name registry's address, derived from the name program's id -/
  nameRegistryPda : Pubkey → Pubkey
  /-- SHA-256 -/
  hash : List UInt8 → Hash

/-- Keys that can sign a transaction: neither the system program nor a program's own address. -/
def Env.CanSign (env : Env) (k : Pubkey) : Prop :=
  k ≠ Pubkey.default ∧ k ≠ env.settingsPda ∧ k ≠ env.arioConfig

instance (env : Env) (k : Pubkey) : Decidable (env.CanSign k) :=
  inferInstanceAs (Decidable (_ ∧ _ ∧ _))

/-- The runtime's clock. -/
structure Clock where
  slot : ℕ
  unixTimestamp : ℤ

structure State where
  settings : GatewaySettings
  registry : GatewayRegistry
  epochSettings : Option EpochSettings
  gateways : Pubkey → Option Gateway
  /-- by gateway operator and delegator -/
  delegations : Pubkey × Pubkey → Option Delegation
  withdrawalCounters : Pubkey → Option WithdrawalCounter
  /-- by owner and id -/
  withdrawals : Pubkey × WithdrawalId → Option Withdrawal
  /-- by gateway operator and delegate -/
  allowlist : Pubkey × Pubkey → Option AllowlistEntry
  observerLookups : Pubkey → Option ObserverLookup
  redelegations : Pubkey → Option RedelegationRecord
  epochs : ℕ → Option Epoch
  epochRentReceipts : ℕ → Option EpochRentReceipt
  /-- by epoch index and observer -/
  observations : ℕ × Pubkey → Option Observation
  tokens : Tokens

namespace State

@[simps] def setGateway (s : State) (k : Pubkey) (g : Option Gateway) : State :=
  { s with gateways := Function.update s.gateways k g }

@[simps] def setDelegation (s : State) (g d : Pubkey) (v : Option Delegation) : State :=
  { s with delegations := Function.update s.delegations (g, d) v }

@[simps] def setWithdrawal (s : State) (o : Pubkey) (id : WithdrawalId) (w : Option Withdrawal) :
    State :=
  { s with withdrawals := Function.update s.withdrawals (o, id) w }

@[simps] def setCounter (s : State) (o : Pubkey) (c : WithdrawalCounter) : State :=
  { s with withdrawalCounters := Function.update s.withdrawalCounters o (some c) }

@[simps] def setAllowlist (s : State) (g d : Pubkey) (e : Option AllowlistEntry) : State :=
  { s with allowlist := Function.update s.allowlist (g, d) e }

@[simps] def setObserverLookup (s : State) (o : Pubkey) (l : Option ObserverLookup) : State :=
  { s with observerLookups := Function.update s.observerLookups o l }

@[simps] def setRedelegation (s : State) (d : Pubkey) (r : RedelegationRecord) : State :=
  { s with redelegations := Function.update s.redelegations d (some r) }

@[simps] def setEpoch (s : State) (i : ℕ) (e : Option Epoch) : State :=
  { s with epochs := Function.update s.epochs i e }

@[simps] def setReceipt (s : State) (i : ℕ) (r : Option EpochRentReceipt) : State :=
  { s with epochRentReceipts := Function.update s.epochRentReceipts i r }

@[simps] def setObservation (s : State) (i : ℕ) (o : Pubkey) (v : Option Observation) : State :=
  { s with observations := Function.update s.observations (i, o) v }

end State

/-! ### Shared account checks -/

/-- The gateway at the address derived from its operator. -/
def loadGateway (s : State) (operator : Pubkey) : Except GarError Gateway := do
  let gateway ← okOr (s.gateways operator) .accountNotInitialized
  require (gateway.operator = operator) .constraintSeeds
  return gateway

/-- The gateway of the operator who signs. -/
def loadOwnGateway (s : State) (operator : Pubkey) : Except GarError Gateway := do
  let gateway ← okOr (s.gateways operator) .accountNotInitialized
  require (gateway.operator = operator) .notOperator
  return gateway

/-- The delegation at the address derived from `gateway` and `delegator`. -/
def loadDelegation (s : State) (gateway delegator : Pubkey) : Except GarError Delegation :=
  okOr (s.delegations (gateway, delegator)) .accountNotInitialized

/-- The withdrawal at the address derived from `owner` and `id`. -/
def loadWithdrawal (s : State) (owner : Pubkey) (id : WithdrawalId) :
    Except GarError Withdrawal := do
  let withdrawal ← okOr (s.withdrawals (owner, id)) .accountNotInitialized
  require (withdrawal.withdrawalId = id) .constraintSeeds
  require (withdrawal.owner = owner) .invalidOwner
  return withdrawal

/-- A wallet's token account of the program's mint. -/
def checkUserTokenAccount (s : State) (owner account : Pubkey) : Except GarError Unit := do
  let acc ← okOr (s.tokens.accounts account) .accountNotInitialized
  require (acc.owner = owner) .constraintRaw
  require (acc.mint = s.settings.mint) .constraintRaw

/-- The stake pool: the account pinned in the settings, of the program's mint. -/
def checkStakeTokenAccount (s : State) (account : Pubkey) : Except GarError Unit := do
  let acc ← okOr (s.tokens.accounts account) .accountNotInitialized
  require (acc.mint = s.settings.mint) .constraintRaw
  require (account = s.settings.stakeTokenAccount) .invalidParameter

/-- The treasury: the account pinned in the settings, of the program's mint. -/
def checkProtocolTokenAccount (s : State) (account : Pubkey) : Except GarError Unit := do
  let acc ← okOr (s.tokens.accounts account) .accountNotInitialized
  require (acc.mint = s.settings.mint) .constraintRaw
  require (account = s.settings.protocolTokenAccount) .invalidParameter

/-- A call of the token program. -/
def splTransfer (s : State) (source destination authority : Pubkey) (amount : ℕ) :
    Except GarError State :=
  match s.tokens.transfer source destination authority amount with
  | .ok tokens => .ok { s with tokens }
  | .error e => .error (.spl e)

/-- A call of the token program that is left out when there is nothing to move. -/
def splTransferNonzero (s : State) (source destination authority : Pubkey) (amount : ℕ) :
    Except GarError State :=
  if 0 < amount then splTransfer s source destination authority amount else .ok s

/-- The owner's withdrawal counter, created when it is first needed. -/
def loadCounter (s : State) (owner : Pubkey) : WithdrawalCounter :=
  (s.withdrawalCounters owner).getD ⟨owner, 0⟩

/-- The id after `id`. -/
def WithdrawalId.next (id : WithdrawalId) : Except GarError WithdrawalId :=
  if h : id.val + 1 < 2 ^ 64 then .ok ⟨id.val + 1, h⟩ else .error .arithmeticOverflow

/-- An account that an instruction creates must not exist yet. -/
def requireAbsent {α : Type} (o : Option α) : Except GarError Unit :=
  require (o.isNone) .accountAlreadyInUse

/-- A word sum that stops the instruction when it overflows. -/
def add64 (a b : ℕ) : Except GarError ℕ := okOr (checkedAdd 64 a b) .arithmeticOverflow

/-- A word sum that is left out when there is nothing to add. -/
def addNonzero (a b : ℕ) : Except GarError ℕ := if 0 < b then add64 a b else .ok a

/-- A timestamp sum that stops the instruction when it overflows. -/
def addTime (a b : ℤ) : Except GarError ℤ := okOr (checkedAddSigned 64 a b) .arithmeticOverflow

section

variable {s s' : State} {operator owner account source destination authority gw : Pubkey}
  {amount a b c : ℕ} {id id' : WithdrawalId} {gateway : Gateway} {withdrawal : Withdrawal}
  {x y z : ℤ} {u : Unit}

@[simp] lemma loadGateway_eq_ok :
    loadGateway s operator = .ok gateway
      ↔ s.gateways operator = some gateway ∧ gateway.operator = operator := by
  simp only [loadGateway, bind_eq_ok, okOr_eq_ok, require_eq_ok, exists_const, pure_eq_ok]
  constructor
  · rintro ⟨g, hg, hop, rfl⟩; exact ⟨hg, hop⟩
  · rintro ⟨hg, hop⟩; exact ⟨_, hg, hop, rfl⟩

@[simp] lemma loadOwnGateway_eq_ok :
    loadOwnGateway s operator = .ok gateway
      ↔ s.gateways operator = some gateway ∧ gateway.operator = operator := by
  simp only [loadOwnGateway, bind_eq_ok, okOr_eq_ok, require_eq_ok, exists_const, pure_eq_ok]
  constructor
  · rintro ⟨g, hg, hop, rfl⟩; exact ⟨hg, hop⟩
  · rintro ⟨hg, hop⟩; exact ⟨_, hg, hop, rfl⟩

@[simp] lemma loadDelegation_eq_ok {d : Delegation} :
    loadDelegation s gw owner = .ok d ↔ s.delegations (gw, owner) = some d := by
  simp [loadDelegation]

@[simp] lemma loadWithdrawal_eq_ok :
    loadWithdrawal s owner id = .ok withdrawal ↔ s.withdrawals (owner, id) = some withdrawal ∧
      withdrawal.withdrawalId = id ∧ withdrawal.owner = owner := by
  simp only [loadWithdrawal, bind_eq_ok, okOr_eq_ok, require_eq_ok, exists_const, pure_eq_ok]
  constructor
  · rintro ⟨w, hw, h1, h2, rfl⟩; exact ⟨hw, h1, h2⟩
  · rintro ⟨hw, h1, h2⟩; exact ⟨_, hw, h1, h2, rfl⟩

@[simp] lemma checkUserTokenAccount_eq_ok :
    checkUserTokenAccount s owner account = .ok u
      ↔ s.tokens.terms account = some (s.settings.mint, owner) := by
  simp only [checkUserTokenAccount, bind_eq_ok, okOr_eq_ok, require_eq_ok, exists_const,
    Tokens.terms, Option.map_eq_some_iff, Prod.mk.injEq]
  exact exists_congr fun acc => by tauto

@[simp] lemma checkStakeTokenAccount_eq_ok :
    checkStakeTokenAccount s account = .ok u ↔ account = s.settings.stakeTokenAccount ∧
      (s.tokens.terms account).map (·.1) = some s.settings.mint := by
  simp only [checkStakeTokenAccount, bind_eq_ok, okOr_eq_ok, require_eq_ok, exists_const,
    Tokens.terms, Option.map_eq_some_iff]
  constructor
  · rintro ⟨acc, h1, h2, h3⟩; exact ⟨h3, _, ⟨acc, h1, rfl⟩, h2⟩
  · rintro ⟨h3, _, ⟨acc, h1, rfl⟩, h2⟩; exact ⟨acc, h1, h2, h3⟩

@[simp] lemma checkProtocolTokenAccount_eq_ok :
    checkProtocolTokenAccount s account = .ok u ↔ account = s.settings.protocolTokenAccount ∧
      (s.tokens.terms account).map (·.1) = some s.settings.mint := by
  simp only [checkProtocolTokenAccount, bind_eq_ok, okOr_eq_ok, require_eq_ok, exists_const,
    Tokens.terms, Option.map_eq_some_iff]
  constructor
  · rintro ⟨acc, h1, h2, h3⟩; exact ⟨h3, _, ⟨acc, h1, rfl⟩, h2⟩
  · rintro ⟨h3, _, ⟨acc, h1, rfl⟩, h2⟩; exact ⟨acc, h1, h2, h3⟩

@[simp] lemma splTransfer_eq_ok :
    splTransfer s source destination authority amount = .ok s' ↔
      ∃ tokens, s.tokens.transfer source destination authority amount = .ok tokens ∧
        s' = { s with tokens } := by
  unfold splTransfer
  cases s.tokens.transfer source destination authority amount with
  | ok tokens =>
    simp only [Except.ok.injEq]
    constructor
    · rintro rfl; exact ⟨_, rfl, rfl⟩
    · rintro ⟨_, rfl, rfl⟩; rfl
  | error e => simp

@[simp] lemma splTransferNonzero_eq_ok :
    splTransferNonzero s source destination authority amount = .ok s' ↔
      ∃ tokens, s.tokens.Moved tokens source destination authority amount ∧
        s' = { s with tokens } := by
  unfold splTransferNonzero Tokens.Moved
  split
  · exact splTransfer_eq_ok
  · simp only [Except.ok.injEq, exists_eq_left]
    exact eq_comm

@[simp] lemma WithdrawalId.next_eq_ok : id.next = .ok id' ↔ id'.val = id.val + 1 := by
  unfold WithdrawalId.next
  split
  · simp only [Except.ok.injEq, Fin.ext_iff]; exact eq_comm
  · have := id'.isLt
    simp only [reduceCtorEq, false_iff]
    omega

@[simp] lemma requireAbsent_eq_ok {α : Type} {o : Option α} :
    requireAbsent o = .ok u ↔ o = none := by
  simp [requireAbsent]

@[simp] lemma add64_eq_ok : add64 a b = .ok c ↔ a + b < 2 ^ 64 ∧ c = a + b := by
  simp [add64]

@[simp] lemma addNonzero_eq_ok :
    addNonzero a b = .ok c ↔ (0 < b → a + b < 2 ^ 64) ∧ c = a + b := by
  unfold addNonzero
  split
  · simp_all
  · simp only [Except.ok.injEq]
    omega

@[simp] lemma addTime_eq_ok : addTime x y = .ok z ↔ fitsSigned 64 (x + y) ∧ z = x + y := by
  simp [addTime]

end

end Gar
end ArioSolana
