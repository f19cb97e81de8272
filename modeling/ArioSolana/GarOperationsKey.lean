import ArioSolana.GarAccounting
import ArioSolana.GarControls
import ArioSolana.GarLayout

/-!
# The operations key

The gateway accounts as they lie on the chain: buffers of bytes, which the program reads, changes
and writes back, and which it migrates one by one. An account of the layout of 1.1.0 is shown to the
program with an operations address that nobody has set. It stays without effect however often the
account is rewritten, because no instruction touches the version but the migration, and the
migration sets the address.

The migration window is the exception: there, the migration authority writes accounts as it likes.
-/

namespace ArioSolana
namespace Gar

open Checked Solana Anchor
open Ant (pubkeyCodec)

/-! ### The accounts on the chain -/

/-- The other accounts, and the gateway accounts by operator. The gateways of `rest` are not used.
-/
structure World where
  rest : State
  accounts : Pubkey → Option (List UInt8)

/-- The gateway that the program finds in an account. -/
def readGateway (disc : Vector UInt8 8) (data : List UInt8) : Option Gateway :=
  match (gatewayLayout disc).tryDeserialize data with
  | .ok a => some a.gateway
  | .error _ => none

/-- What the program finds on the chain. -/
def World.state (disc : Vector UInt8 8) (w : World) : State :=
  { w.rest with gateways := fun k => (w.accounts k).bind (readGateway disc) }

/-- How an account changes as an instruction leaves the given gateway in it. The values that a
program holds are of machine types, so the layout has room for them. -/
inductive Rewritten (disc : Vector UInt8 8) :
    Option (List UInt8) → Option Gateway → Option (List UInt8) → Prop
  | absent : Rewritten disc none none none
  | created {g bump data} (valid : gatewayCodec.Valid ⟨g, 0, bump⟩)
      (write : (gatewayLayout disc).writeAccount ⟨g, 0, bump⟩ (List.replicate gatewaySize 0)
        = .ok data) : Rewritten disc none (some g) (some data)
  | unreadable {data} (read : readGateway disc data = none) :
      Rewritten disc (some data) none (some data)
  | closed {data g} (read : readGateway disc data = some g) : Rewritten disc (some data) none none
  | written {data a g data'} (read : (gatewayLayout disc).tryDeserialize data = .ok a)
      (valid : gatewayCodec.Valid { a with gateway := g })
      (write : (gatewayLayout disc).writeAccount { a with gateway := g } data = .ok data') :
      Rewritten disc (some data) (some g) (some data')

inductive ImportError where
  | migrationInactive
  | unauthorized
  | migrationExpired
  | invalidAccountData
deriving DecidableEq

/-- Imports are rejected from this time on. -/
def migrationDeadline : ℤ := 4490553669

/-- `import_account` of a gateway: the data of the account afterwards. -/
def importAccount (disc : Vector UInt8 8) (settings : GatewaySettings) (now : ℤ)
    (authority : Pubkey) (data : List UInt8) (account : Option (List UInt8)) :
    Except ImportError (List UInt8) := do
  require (settings.migrationActive = true) .migrationInactive
  require (settings.migrationAuthority = authority) .unauthorized
  require (now < migrationDeadline) .migrationExpired
  require (8 ≤ data.length ∧ data.take 8 = disc.toList) .invalidAccountData
  require (data.length ≤ gatewaySize) .invalidAccountData
  require (∀ old ∈ account, old.length = gatewaySize) .invalidAccountData
  return data ++ List.replicate (gatewaySize - data.length) 0

inductive WorldEvent where
  | call (e : Event)
  | migrateGateway (operator : Pubkey)
  | importGateway (now : ℤ) (authority operator : Pubkey) (data : List UInt8)
  /-- `import_account` for an account of another type -/
  | importOther
  /-- an instruction that touches neither gateways nor withdrawals: the settings, the registry, or a
  schema migration of another account -/
  | upkeep (signer : Option Pubkey)

/-- One step of the chain. -/
inductive WorldStep (env : Env) (disc : Vector UInt8 8) : World → WorldEvent → World → Prop
  | call {w e s accounts} (exec : GarStep env (w.state disc) e s)
      (write : ∀ k, Rewritten disc (w.accounts k) (s.gateways k) (accounts k)) :
      WorldStep env disc w (.call e) ⟨s, accounts⟩
  | migrateGateway {w k data data'} (found : w.accounts k = some data)
      (migrate : Gar.migrateGateway disc data = .ok data') :
      WorldStep env disc w (.migrateGateway k)
        { w with accounts := Function.update w.accounts k (some data') }
  | importGateway {w now authority k data data'}
      (write : importAccount disc w.rest.settings now authority data (w.accounts k) = .ok data') :
      WorldStep env disc w (.importGateway now authority k data)
        { w with accounts := Function.update w.accounts k (some data') }
  | importOther {w w'} (accounts : ∀ k, w'.accounts k = w.accounts k ∨
      ∃ data, w'.accounts k = some data ∧ data.take 8 ≠ disc.toList ∧
        data.length ≠ gatewaySizeAtV110) : WorldStep env disc w .importOther w'
  | upkeep {w rest signer} (withdrawals : rest.withdrawals = w.rest.withdrawals) :
      WorldStep env disc w (.upkeep signer) { w with rest }

/-! ### Who may act -/

/-- The event writes an account as the migration authority likes. -/
def WorldEvent.IsImport : WorldEvent → Prop
  | .importGateway .. => True
  | .importOther => True
  | _ => False

/-- The key whose signature the event acts on. -/
def WorldEvent.signer : WorldEvent → Option Pubkey
  | .call ⟨_, .call i⟩ => i.signer
  | .upkeep signer => signer
  | _ => none

/-- The operations address that was last set for the gateway of `k`, after an event. To join and to
be migrated undoes it. -/
def WorldEvent.operationsKey (disc : Vector UInt8 8) (k : Pubkey) (last : Option Pubkey) :
    WorldEvent → Option Pubkey
  | .call ⟨_, .call i⟩ => if i.Joins k then none else (i.rotates k).or last
  | .migrateGateway operator => if operator = k then none else last
  | .importGateway _ _ operator data =>
    if operator = k then
      (readGateway disc (data ++ List.replicate (gatewaySize - data.length) 0)).map
        Gateway.operationsAddress
    else last
  | _ => last

/-- The operations address that was last set in a history, latest event first. -/
def lastOperationsKey (disc : Vector UInt8 8) (k : Pubkey) :
    List (Step World WorldEvent) → Option Pubkey
  | [] => none
  | e :: tr => e.label.operationsKey disc k (lastOperationsKey disc k tr)

/-- What holds of an account, where `last` is the operations address that was last set. -/
def Settled (disc : Vector UInt8 8) (last : Option Pubkey) (data : List UInt8) : Prop :=
  (∃ fields v, InV110 disc fields v data) ∨ data.length ≠ gatewaySizeAtV110 ∧
    ∀ a, (gatewayLayout disc).tryDeserialize data = .ok a →
      operationsAddressIsSet a.gateway.version →
      a.gateway.operationsAddress = a.gateway.operator ∨ last = some a.gateway.operationsAddress

/-! ### Reading and writing -/

section

variable {env : Env} {disc : Vector UInt8 8} {w w' w₀ : World} {ev : WorldEvent} {k u : Pubkey}
  {data data' : List UInt8} {a a' : StoredGateway} {g g' : Gateway} {old new : Option (List UInt8)}
  {o last last' : Option Pubkey} {got : Option Gateway} {s s' : State} {i : Instruction}
  {clock : Clock} {tr : List (Step World WorldEvent)} {fields : GatewayFields} {v : SchemaVersion}

lemma readGateway_eq_some (h : readGateway disc data = some g) :
    ∃ a, (gatewayLayout disc).tryDeserialize data = .ok a ∧ a.gateway = g := by
  unfold readGateway at h
  split at h
  · rename_i a hread
    exact ⟨a, hread, Option.some.inj h⟩
  · cases h

lemma readGateway_of_ok (h : (gatewayLayout disc).tryDeserialize data = .ok a) :
    readGateway disc data = some a.gateway := by
  rw [readGateway, h]

lemma importAccount_ok {settings : GatewaySettings} {now : ℤ} {authority : Pubkey}
    (h : importAccount disc settings now authority data old = .ok data') :
    data.length ≤ gatewaySize ∧
      data' = data ++ List.replicate (gatewaySize - data.length) 0 := by
  simp only [importAccount, bind_eq_ok, require_eq_ok, pure_eq_ok, exists_const] at h
  obtain ⟨-, -, -, -, hle, -, rfl⟩ := h
  exact ⟨hle, rfl⟩

lemma Rewritten.read (h : Rewritten disc old got new) : new.bind (readGateway disc) = got := by
  cases h with
  | absent => rfl
  | created valid write => exact readGateway_of_ok (Layout.tryDeserialize_writeAccount valid write)
  | unreadable read => exact read
  | closed => rfl
  | written _ valid write =>
    exact readGateway_of_ok (Layout.tryDeserialize_writeAccount valid write)

lemma Settled.of_unreadable (h : Settled disc last data) (hread : readGateway disc data = none) :
    Settled disc last' data := by
  obtain hlegacy | ⟨hlen, -⟩ := h
  · exact .inl hlegacy
  · refine .inr ⟨hlen, fun a ha => ?_⟩
    rw [readGateway_of_ok ha] at hread
    cases hread

lemma Settled.of_read (hlen : data.length ≠ gatewaySizeAtV110)
    (hread : (gatewayLayout disc).tryDeserialize data = .ok a)
    (h : operationsAddressIsSet a.gateway.version →
      a.gateway.operationsAddress = a.gateway.operator ∨
        last = some a.gateway.operationsAddress) : Settled disc last data := by
  refine .inr ⟨hlen, fun a' ha' => ?_⟩
  obtain rfl := Except.ok.inj (hread.symm.trans ha')
  exact h

lemma InV110.rewritten (h : InV110 disc fields v data)
    (hread : (gatewayLayout disc).tryDeserialize data = .ok a)
    (hvalid : gatewayCodec.Valid { a with gateway := g })
    (hwrite : (gatewayLayout disc).writeAccount { a with gateway := g } data = .ok data')
    (hversion : g.version = a.gateway.version) :
    InV110 disc { a with gateway := g : StoredGateway }.fields v data' := by
  obtain ⟨-, hv⟩ := h.read hread
  refine ⟨(Layout.writeAccount_length hwrite).trans h.size, hvalid.1.1, h.older, ?_⟩
  obtain ⟨-, hdata'⟩ := Layout.writeAccount_eq_ok.mp hwrite
  have hencode : (gatewayLayout disc).encode { a with gateway := g }
      = disc.toList ++ gatewayV110Codec.encode ({ a with gateway := g : StoredGateway }.fields, v)
        ++ pubkeyCodec.encode g.operationsAddress := by
    rw [gatewayLayout_encode, ← hv, ← hversion]
  rw [hencode, List.append_assoc _ (pubkeyCodec.encode _)] at hdata'
  exact ⟨_, hdata'⟩

/-! ### Steps -/

lemma joinNetwork_absent (h : i.handler env clock s = .ok s') (hjoin : i.Joins k) :
    s.gateways k = none := by
  cases i <;> try exact hjoin.elim
  case joinNetwork operator account pool params =>
    obtain rfl : operator = k := hjoin
    simp only [Instruction.handler, joinNetwork, bind_eq_ok, requireAbsent_eq_ok, exists_const] at h
    exact h.1

lemma Instruction.signer_of_rotates {new : Pubkey} (h : i.rotates k = some new) :
    i.signer = some k := by
  cases i <;> try cases h
  case updateOperationsAddress operator newOperationsAddress =>
    simp only [Instruction.rotates] at h
    split at h
    · rename_i hk
      rw [← hk]
      rfl
    · cases h

lemma GarStep.controlled {e : Event} (h : GarStep env s e s') :
    (∃ i, e.action = .call i ∧ Controlled i s s' ∧ ∀ k, i.Joins k → s.gateways k = none) ∨
    (∀ i, e.action ≠ .call i) ∧ s'.gateways = s.gateways ∧ s'.withdrawals = s.withdrawals := by
  obtain ⟨clock, action⟩ := e
  cases action with
  | call i =>
    obtain ⟨_, -, h⟩ := bind_eq_ok.mp h
    exact .inl ⟨i, rfl, handler_controlled h, fun k => joinNetwork_absent h⟩
  | walletTransfer source destination authority amount =>
    obtain ⟨_, -, h⟩ := bind_eq_ok.mp h
    obtain ⟨t, -, rfl⟩ := splTransfer_eq_ok.mp h
    exact .inr ⟨fun i hi => Action.noConfusion hi, rfl, rfl⟩
  | openTokenAccount key mint owner =>
    obtain ⟨_, -, h⟩ := bind_eq_ok.mp h
    obtain rfl := Except.ok.inj h
    exact .inr ⟨fun i hi => Action.noConfusion hi, rfl, rfl⟩

lemma Rewritten.settled (h : Rewritten disc old got (some data'))
    (hold : ∀ data, old = some data → Settled disc last data)
    (hcreated : ∀ g, old = none → got = some g → g.operationsAddress = g.operator)
    (hkept : ∀ data a g, old = some data → (gatewayLayout disc).tryDeserialize data = .ok a →
      got = some g → g.keys = a.gateway.keys ∧ last' = last ∨
        ∃ key, ¬ a.gateway.version.lt operationsAddressSince ∧
          g.keys = (a.gateway.operator, a.gateway.version, key) ∧ last' = some key) :
    Settled disc last' data' := by
  cases h with
  | created valid write =>
    have hlen : data'.length ≠ gatewaySizeAtV110 := by
      rw [Layout.writeAccount_length write, List.length_replicate]
      decide
    exact .of_read hlen (Layout.tryDeserialize_writeAccount valid write)
      fun _ => .inl (hcreated _ rfl rfl)
  | unreadable read => exact (hold _ rfl).of_unreadable read
  | @written data a g _ read valid write =>
    obtain ⟨fields, v, hin⟩ | ⟨hlen, hset⟩ := hold _ rfl
    · -- the layout of 1.1.0 stays, since the version does
      obtain ⟨hkeys, -⟩ | ⟨_, hnew, -⟩ := hkept _ _ _ rfl read rfl
      · have hversion := (Prod.mk.inj (Prod.mk.inj hkeys).2).1
        exact .inl ⟨_, v, hin.rewritten read valid write hversion⟩
      · have hv := (hin.read read).2
        exact absurd (hv ▸ older_lt hin.older) hnew
    · have hlen' : data'.length ≠ gatewaySizeAtV110 := by
        rwa [Layout.writeAccount_length write]
      refine .of_read hlen' (Layout.tryDeserialize_writeAccount valid write) fun hnew => ?_
      obtain ⟨hkeys, rfl⟩ | ⟨key, -, hkeys, rfl⟩ := hkept _ _ _ rfl read rfl
      · obtain ⟨hoperator, hrest⟩ := Prod.mk.inj hkeys
        obtain ⟨hversion, hkey⟩ := Prod.mk.inj hrest
        dsimp only at hnew ⊢
        rw [hversion] at hnew
        rw [hoperator, hkey]
        exact hset a read hnew
      · exact .inr (congrArg some (Prod.mk.inj (Prod.mk.inj hkeys).2).2.symm)

lemma World.state_of_read (hk : w.accounts k = some data)
    (hread : (gatewayLayout disc).tryDeserialize data = .ok a) :
    (w.state disc).gateways k = some a.gateway := by
  simp only [World.state, hk, Option.bind_some, readGateway_of_ok hread]

lemma World.state_of_absent (hk : w.accounts k = none) : (w.state disc).gateways k = none := by
  simp only [World.state, hk, Option.bind_none]

lemma Rewritten.settled_of_call {e : Event}
    (h : Rewritten disc (w.accounts k) (s.gateways k) (some data))
    (exec : GarStep env (w.state disc) e s)
    (hold : ∀ data, w.accounts k = some data → Settled disc last data) :
    Settled disc ((WorldEvent.call e).operationsKey disc k last) data := by
  obtain ⟨clock, action⟩ := e
  obtain ⟨i, rfl, hcontrolled, habsent⟩ | ⟨hother, hsame, -⟩ := exec.controlled
  · refine h.settled hold (fun g hnone hgot => ?_) fun data a g hdata hread hgot => ?_
    · obtain ⟨-, hkeys⟩ := hcontrolled.joined k g (World.state_of_absent hnone) hgot
      obtain ⟨hoperator, hrest⟩ := Prod.mk.inj hkeys
      exact (Prod.mk.inj hrest).2.trans hoperator.symm
    · have hview := World.state_of_read hdata hread
      have hjoin : ¬ i.Joins k := by
        intro hjoin
        rw [habsent k hjoin] at hview
        cases hview
      simp only [WorldEvent.operationsKey, if_neg hjoin]
      cases hrotates : i.rotates k with
      | none => exact .inl ⟨hcontrolled.kept k _ _ hview hgot hrotates, rfl⟩
      | some new =>
        obtain ⟨hversion, hkeys⟩ := hcontrolled.rotated k _ _ new hview hgot hrotates
        exact .inr ⟨new, hversion, hkeys, rfl⟩
  · have hlast : (WorldEvent.call ⟨clock, action⟩).operationsKey disc k last = last := by
      cases action with
      | call i => exact absurd rfl (hother i)
      | _ => rfl
    rw [hlast]
    refine h.settled hold (fun g hnone hgot => ?_) fun data a g hdata hread hgot => ?_
    · rw [hsame, World.state_of_absent hnone] at hgot
      cases hgot
    · rw [hsame, World.state_of_read hdata hread] at hgot
      obtain rfl := Option.some.inj hgot
      exact .inl ⟨rfl, rfl⟩

lemma WorldStep.settled {key : Pubkey → Option Pubkey} (h : WorldStep env disc w ev w')
    (hold : ∀ k data, w.accounts k = some data → Settled disc (key k) data)
    (hk : w'.accounts k = some data) : Settled disc (ev.operationsKey disc k (key k)) data := by
  cases h with
  | @call e s accounts exec write =>
    have hwrite := write k
    rw [show accounts k = some data from hk] at hwrite
    exact hwrite.settled_of_call exec (hold k)
  | @migrateGateway j old migrated found migrate =>
    by_cases hj : j = k
    · subst hj
      obtain rfl : migrated = data := by simpa using hk
      obtain ⟨hlen, a, hread, hkey⟩ := migrateGateway_read migrate
      exact .of_read (by rw [hlen]; decide) hread fun _ => .inl hkey
    · simp only [Function.update_of_ne (Ne.symm hj)] at hk
      simp only [WorldEvent.operationsKey, if_neg hj]
      exact hold k data hk
  | @importGateway now authority j given written write =>
    by_cases hj : j = k
    · subst hj
      obtain rfl : written = data := by simpa using hk
      obtain ⟨hle, rfl⟩ := importAccount_ok write
      refine .inr ⟨?_, fun a hread _ => .inr ?_⟩
      · rw [List.length_append, List.length_replicate, gatewaySize_eq]
        rw [gatewaySize_eq] at hle
        omega
      · simp only [WorldEvent.operationsKey, if_pos, readGateway_of_ok hread, Option.map_some]
    · simp only [Function.update_of_ne (Ne.symm hj)] at hk
      simp only [WorldEvent.operationsKey, if_neg hj]
      exact hold k data hk
  | importOther accounts =>
    obtain hsame | ⟨data', hdata', hmark, hlen⟩ := accounts k
    · exact hold k data (hsame.symm.trans hk)
    · obtain rfl := Option.some.inj (hk.symm.trans hdata')
      refine .inr ⟨hlen, fun a hread => ?_⟩
      obtain ⟨-, stale, rfl⟩ := Layout.tryDeserialize_eq_ok.mp hread
      refine absurd ?_ hmark
      rw [gatewayLayout_encode, List.append_assoc, List.append_assoc]
      exact List.take_left' disc.length_toList
  | upkeep => exact hold k data hk

lemma accounts_settled (run : Run (WorldStep env disc) w₀ tr w)
    (hstart : ∀ k data, w₀.accounts k = some data → Settled disc none data) :
    ∀ k data, w.accounts k = some data → Settled disc (lastOperationsKey disc k tr) data := by
  induction run with
  | nil => exact hstart
  | cons run last ih =>
    intro k data hk
    exact last.settled ih hk

/-! ### Without imports -/

lemma WorldStep.controlled (h : WorldStep env disc w ev w') (himport : ¬ ev.IsImport)
    (hown : OwnWithdrawals w.rest) (hsigner : ev.signer = some u) (hne : u ≠ k) :
    ((w'.state disc).gateways k).map (fun g => (g.control, g.operationsAddress))
      = ((w.state disc).gateways k).map (fun g => (g.control, g.operationsAddress)) ∧
    ∀ id, w'.rest.withdrawals (k, id) = w.rest.withdrawals (k, id) := by
  cases h with
  | @call e s accounts exec write =>
    have hview : ((⟨s, accounts⟩ : World).state disc).gateways k = s.gateways k := (write k).read
    rw [hview]
    obtain ⟨clock, action⟩ := e
    obtain ⟨i, rfl, hcontrolled, -⟩ | ⟨hother, -, -⟩ := exec.controlled
    · have hcontrol := hcontrolled.others hown u k hsigner hne
      refine ⟨?_, hcontrolled.vaults.others u k hsigner hne⟩
      cases hold : (w.state disc).gateways k with
      | none =>
        rw [hold, Option.map_none, Option.map_eq_none_iff] at hcontrol
        rw [hcontrol]
      | some g =>
        rw [hold, Option.map_some, Option.map_eq_some_iff] at hcontrol
        obtain ⟨g', hg', hsame⟩ := hcontrol
        have hrotates : i.rotates k = none := by
          by_contra hrotates
          obtain ⟨new, hnew⟩ := Option.ne_none_iff_exists'.mp hrotates
          exact hne (Option.some.inj (hsigner.symm.trans (Instruction.signer_of_rotates hnew)))
        have hkeys := hcontrolled.kept k g g' hold hg' hrotates
        rw [hg', Option.map_some, Option.map_some, hsame, (Prod.mk.inj (Prod.mk.inj hkeys).2).2]
    · cases action with
      | call i => exact absurd rfl (hother i)
      | _ => cases hsigner
  | migrateGateway => cases hsigner
  | importGateway => exact absurd trivial himport
  | importOther => exact absurd trivial himport
  | upkeep withdrawals => exact ⟨rfl, fun id => by rw [withdrawals]⟩

lemma WorldStep.ownWithdrawals (h : WorldStep env disc w ev w') (himport : ¬ ev.IsImport)
    (hown : OwnWithdrawals w.rest) : OwnWithdrawals w'.rest := by
  cases h with
  | call exec write =>
    obtain ⟨i, -, hcontrolled, -⟩ | ⟨-, -, hsame⟩ := exec.controlled
    · exact hcontrolled.vaults.own hown
    · intro u id v hv
      rw [hsame] at hv
      exact hown u id v hv
  | migrateGateway => exact hown
  | importGateway => exact absurd trivial himport
  | importOther => exact absurd trivial himport
  | upkeep withdrawals =>
    intro u id v hv
    rw [withdrawals] at hv
    exact hown u id v hv

/-- **The operations key has only the powers it was given.** In every history from accounts of the
layout of 1.1.0, a key besides the operator's may act for a gateway only if it was set since the
gateway joined or was migrated; every account of 1.1.0 can be migrated, which changes nothing but
its version and its operations address; and without imports, an event leaves alone what the
operators who do not sign it decide about. -/
theorem operations_key_powers
    (hstart : ∀ k data, w₀.accounts k = some data → ∃ fields v, InV110 disc fields v data)
    (run : Run (WorldStep env disc) w₀ tr w) :
    (∀ k data a signer, w.accounts k = some data →
      (gatewayLayout disc).tryDeserialize data = .ok a → a.gateway.Authorises signer →
      signer ≠ a.gateway.operator → lastOperationsKey disc k tr = some signer) ∧
    (∀ k data, w.accounts k = some data → data.length = gatewaySizeAtV110 →
      ∃ fields v, InV110 disc fields v data ∧
        ∃ data', migrateGateway disc data = .ok data' ∧ data'.length = gatewaySize ∧
          ∃ a, (gatewayLayout disc).tryDeserialize data' = .ok a ∧ a.fields = fields ∧
            a.gateway.version = gatewayVersion ∧
            a.gateway.operationsAddress = a.gateway.operator) ∧
    (OwnWithdrawals w₀.rest → (∀ e ∈ tr, ¬ e.label.IsImport) →
      ∀ ev w', WorldStep env disc w ev w' → ¬ ev.IsImport →
        ∀ u k, ev.signer = some u → u ≠ k →
          ((w'.state disc).gateways k).map (fun g => (g.control, g.operationsAddress))
            = ((w.state disc).gateways k).map (fun g => (g.control, g.operationsAddress)) ∧
          ∀ id, w'.rest.withdrawals (k, id) = w.rest.withdrawals (k, id)) := by
  have hsettled := accounts_settled run fun k data hk => .inl (hstart k data hk)
  refine ⟨fun k data a signer hk hread hauth hne => ?_, fun k data hk hlen => ?_,
    fun hown himports ev w' hstep himport u k hsigner hne => ?_⟩
  · obtain hop | ⟨hversion, -, hsigner⟩ := hauth
    · exact absurd hop hne
    · obtain ⟨fields, v, hin⟩ | ⟨-, hset⟩ := hsettled k data hk
      · have hv := (hin.read hread).2
        exact absurd (hv ▸ older_lt hin.older) hversion
      · obtain hop | hlast := hset a hread hversion
        · exact absurd (hsigner.trans hop) hne
        · rw [hlast, hsigner]
  · obtain ⟨fields, v, hin⟩ | ⟨hother, -⟩ := hsettled k data hk
    · exact ⟨fields, v, hin, migrateGateway_ok hin⟩
    · exact absurd hlen hother
  · have howned : OwnWithdrawals w.rest :=
      run.invariant (P := fun w => OwnWithdrawals w.rest) hown
        (fun _ _ _ hallowed hown hstep => hstep.ownWithdrawals hallowed hown) himports
    exact hstep.controlled himport howned hsigner hne

end

namespace SmallOperationsKey

open SmallNetwork (chain start)

def zero : Vector UInt8 8 := .replicate 8 0

/-- An account of 1.2.0 whose operator never set its operations address. -/
def imported : StoredGateway where
  gateway := {
    operator := ⟨21⟩
    label := [97]
    fqdn := []
    port := 443
    protocol := .https
    properties := []
    note := []
    operatorStake := 20000000000
    totalDelegatedStake := 0
    status := .joined
    startTimestamp := 1000
    leaveTimestamp := none
    leaveEpochDuration := 0
    stats := {}
    weights := {}
    settings := ⟨true, 500, 10000000, false, none, none⟩
    registryIndex := 0
    observerAddress := ⟨41⟩
    cumulativeRewardPerToken := 0
    version := gatewayVersion
    operationsAddress := ⟨99⟩ }
  reserved := 0
  bump := 255

def importedData : List UInt8 := (gatewayLayout zero).encode imported

lemma imported_read : (gatewayLayout zero).tryDeserialize importedData = .ok imported := by
  decide +kernel

lemma imported_valid : gatewayCodec.Valid imported :=
  (Layout.tryDeserialize_eq_ok.mp imported_read).1

/-- The same account in the layout of 1.1.0, with bytes of earlier values behind it. -/
def olderData : List UInt8 :=
  zero.toList ++ gatewayV110Codec.encode (imported.fields, ⟨1, 1, 0⟩) ++
    List.replicate (956 - (gatewayV110Codec.encode (imported.fields, ⟨1, 1, 0⟩)).length) 7

lemma older_inV110 : InV110 zero imported.fields ⟨1, 1, 0⟩ olderData :=
  ⟨by decide +kernel, imported_valid.1.1, by decide, _, rfl⟩

/-- The world with this account. -/
def world : World := ⟨start, fun k => if k = ⟨21⟩ then some olderData else none⟩

end SmallOperationsKey

open SmallNetwork (chain start) in
open SmallOperationsKey in
theorem operations_key_powers_small :
    (∃ g, readGateway zero olderData = some g ∧ g.operationsAddress ≠ g.operator ∧
      ¬ g.Authorises g.operationsAddress) ∧
    ∃ data', migrateGateway zero olderData = .ok data' ∧ ∃ a,
      (gatewayLayout zero).tryDeserialize data' = .ok a ∧ a.fields = imported.fields ∧
        a.gateway.operationsAddress = ⟨21⟩ ∧
        ∀ signer, a.gateway.Authorises signer → signer = ⟨21⟩ := by
  have hfound : world.accounts ⟨21⟩ = some olderData := by simp only [world, if_true]
  have hstart : ∀ k data, world.accounts k = some data → ∃ fields v, InV110 zero fields v data := by
    intro k data hk
    by_cases hkey : k = ⟨21⟩
    · rw [hkey, hfound] at hk
      obtain rfl := Option.some.inj hk
      exact ⟨_, _, older_inV110⟩
    · simp only [world, if_neg hkey, reduceCtorEq] at hk
  obtain ⟨hpowers, hmigrates, -⟩ :=
    operations_key_powers hstart (Run.nil : Run (WorldStep chain zero) world [] world)
  constructor
  · have hread : (readGateway zero olderData).isSome = true := by decide +kernel
    obtain ⟨g, hg⟩ := Option.isSome_iff_exists.mp hread
    have hne : ∀ g ∈ readGateway zero olderData, g.operationsAddress ≠ g.operator := by
      decide +kernel
    obtain ⟨a, ha, rfl⟩ := readGateway_eq_some hg
    refine ⟨_, hg, hne _ hg, fun hauth => ?_⟩
    cases hpowers ⟨21⟩ olderData a _ hfound ha hauth (hne _ hg)
  · obtain ⟨fields, v, hin, data', hmigrate, -, a, hread, hfields, -, hops⟩ :=
      hmigrates ⟨21⟩ olderData hfound older_inV110.size
    have hall : a.fields = imported.fields := hfields.trans (hin.fields_eq older_inV110)
    have hoperator : a.gateway.operator = ⟨21⟩ := congrArg (fun x => x.1.1) hall
    refine ⟨data', hmigrate, a, hread, hall, hops.trans hoperator, fun signer hauth => ?_⟩
    -- after the migration, too, nobody but the operator may act
    by_contra hne
    have run := Run.cons (Run.nil : Run (WorldStep chain zero) world [] world)
      (.migrateGateway hfound hmigrate)
    have hlast := (operations_key_powers hstart run).1 ⟨21⟩ data' a signer
      (by simp only [Function.update_self]) hread hauth (by rwa [hoperator])
    cases hlast

open SmallNetwork (chain start) in
open SmallOperationsKey in
/-- An imported account may have an operations address that its operator never set. -/
theorem operations_key_imported : ∃ (w₀ : World) (tr : List (Step World WorldEvent)) (w : World)
    (k : Pubkey) (data : List UInt8) (a : StoredGateway) (signer : Pubkey),
    (∀ k, w₀.accounts k = none) ∧ Run (WorldStep chain zero) w₀ tr w ∧ w.accounts k = some data ∧
      (gatewayLayout zero).tryDeserialize data = .ok a ∧ a.gateway.Authorises signer ∧
      signer ≠ a.gateway.operator ∧ ∀ e ∈ tr, ∀ ev, e.label ≠ .call ev := by
  have hwrite : importAccount zero start.settings 1000 ⟨5⟩ importedData none
      = .ok (importedData ++ List.replicate (gatewaySize - importedData.length) 0) := by
    have hmark : 8 ≤ importedData.length ∧ importedData.take 8 = zero.toList := by decide +kernel
    have hsize : importedData.length ≤ gatewaySize := by decide +kernel
    rw [importAccount, require_of (by decide +kernel), ok_bind, require_of (by decide +kernel),
      ok_bind, require_of (by decide), ok_bind, require_of hmark, ok_bind, require_of hsize,
        ok_bind,
      require_of (by simp), ok_bind]
    rfl
  refine ⟨⟨start, fun _ => none⟩, _, _, ⟨21⟩, _, imported, ⟨99⟩, fun _ => rfl,
    .cons .nil (.importGateway hwrite), Function.update_self .., ?_, by decide, by decide, ?_⟩
  · exact Layout.tryDeserialize_eq_ok.mpr ⟨imported_valid, _, rfl⟩
  · intro e he ev
    rw [List.mem_singleton] at he
    subst he
    exact WorldEvent.noConfusion

end Gar
end ArioSolana
