import ArioSolana.ArnsNameRuns
import ArioSolana.CorePrimaryNameSteps
import ArioSolana.TwoWay

/-!
# Primary names over any run

The accounts of the primary names are a table that is read in both directions: from an address to
its name and from a name to its address. In every state that is reached the two directions agree, so
the accounts stand for a partial bijection. Each call leaves it, or connects an address with a name
with the consent of the name's owner and of the address, or takes a connection out for one of the
two. -/

namespace ArioSolana
namespace Core

open Checked Solana TwoWay Borsh

/-- The accounts agree: each name in force has one reverse entry, with its owner, and each reverse
entry belongs to a name in force. -/
structure Paired (env : PrimaryNameEnv) (s : PrimaryNameState) : Prop where
  reverse : ∀ o x, s.primaryNames o = some x → x.owner = o ∧ o ≠ .default ∧ Proper env x.name ∧
    ∃ r, s.reverses (env.sha256 x.name) = some r ∧ r.name = x.name ∧ r.owner = o
  forward : ∀ h r, s.reverses h = some r → h = env.sha256 r.name ∧
    ∃ x, s.primaryNames r.owner = some x ∧ x.name = r.name
  requests : ∀ o q, s.requests o = some q → q.initiator = o ∧ o ≠ .default ∧ Proper env q.name

/-! ### One name -/

open Arns.SmallNames (ario arioHash)

namespace SmallPrimaryNames

def world : PrimaryNameEnv where
  sha256 text := if text = ario then arioHash else Vector.replicate 32 0
  toLowercase text := text.map asciiLower
  bump _ _ := 255
  findProgramAddress _ _ := .default
  antProgramId := ⟨77⟩
  requestBump _ := 255
  primaryNameBump _ := 254
  reverseBump _ := 253
  gar := Gar.SmallNetwork.chain

lemma lowersAscii : LowersAscii world.toLowercase := fun _ _ => rfl

/-- The mint is 10, the name program 7 and the treasury 12; a request lasts a week. -/
def start : PrimaryNameState where
  config := ⟨⟨10⟩, ⟨7⟩, ⟨12⟩, 604800⟩
  requests _ := none
  primaryNames _ := none
  reverses _ := none
  gar := Gar.SmallNetwork.start

lemma fresh : FreshPrimaryNames start := ⟨fun _ => rfl, fun _ => rfl, fun _ => rfl⟩

def account (program : Pubkey) (name : String) (encoded : List UInt8) : AccountInfo :=
  ⟨.default, program, accountData world.toReadEnv name encoded []⟩

/-- The name was bought for good, and asset 50 controls it. -/
def record : AccountInfo := account ⟨7⟩ "ArnsRecord" (Arns.ArnsRecord.encode
  ⟨arioHash, ⟨21⟩, ⟨50⟩, .permabuy, 0, none, 10, 0, 255, ario, (1, 0, 0)⟩)

def demand : AccountInfo := account ⟨7⟩ "DemandFactor" (leBytes 8 1000000)

/-- The record `@` of the asset, which nobody holds but the asset's owner. -/
def antRecord : AccountInfo := account ⟨77⟩ "AntRecord" (Ant.AntRecord.encode
  ⟨⟨50⟩, ascii "@", [], 0, 900, none, none, ⟨21⟩, 255, Ant.currentVersion⟩)

/-- The asset belongs to wallet 21. -/
def antConfig : AccountInfo := account ⟨77⟩ "AntConfig" (Ant.AntConfig.encode
  ⟨⟨50⟩, [], [], [], [], [], ⟨21⟩, 255, Ant.currentVersion⟩)

/-- Wallet 23 asks for the name, with a capital letter. -/
def ask : PrimaryNameEvent := .call 1000 (.request
  ⟨⟨23⟩, ⟨12⟩, .balance ⟨33⟩, [⟨record, ⟨.other ⟨7⟩, false⟩⟩, ⟨demand, ⟨.other ⟨8⟩, false⟩⟩]⟩
  [65, 114, 105, 111])

def approve : PrimaryNameEvent :=
  .call 2000 (.approve ⟨21⟩ ⟨23⟩ arioHash ⟨77⟩ [record, antRecord, antConfig])

def history (events : List PrimaryNameEvent) : List (Step PrimaryNameState PrimaryNameEvent) :=
  traceOf (PrimaryNameEvent.exec world) start events

def now (events : List PrimaryNameEvent) : PrimaryNameState :=
  stateAfter (PrimaryNameEvent.exec world) start events

lemma run_asked : Run (PrimaryNameStep world) start (history [ask]) (now [ask]) :=
  .cons .nil ⟨(by decide : (⟨23⟩ : Pubkey) ≠ .default), eq_ok_outcome (by decide +kernel)⟩

lemma approves : (approve.exec world (now [ask])).isOk = true := by decide +kernel

lemma step_approved : PrimaryNameStep world (now [ask]) approve (now [approve, ask]) :=
  ⟨(by decide : (⟨21⟩ : Pubkey) ≠ .default), eq_ok_outcome (s := now [ask]) approves⟩

lemma run_approved :
    Run (PrimaryNameStep world) start (history [approve, ask]) (now [approve, ask]) :=
  run_asked.cons step_approved

end SmallPrimaryNames

section

variable {env : PrimaryNameEnv} {clock : ℤ} {s s' s₀ : PrimaryNameState} {e : PrimaryNameEvent}
  {c : PrimaryNameCall} {o k : Pubkey} {n : List UInt8} {x : PrimaryName} {q : PrimaryNameRequest}
  {tr : List (Step PrimaryNameState PrimaryNameEvent)}
  {ev : Step PrimaryNameState PrimaryNameEvent}

/-! ### One step -/

lemma Paired.of_accounts (hs : Paired env s) (hnames : s'.primaryNames = s.primaryNames)
    (hreverses : s'.reverses = s.reverses)
    (hrequests : ∀ o q, s'.requests o = some q → q.initiator = o ∧ o ≠ .default ∧ Proper env
      q.name) :
    Paired env s' := by
  constructor
  · rw [hnames, hreverses]
    exact hs.reverse
  · rw [hnames, hreverses]
    exact hs.forward
  · exact hrequests

lemma Named.paired (hs : Paired env s) (h : Named env clock o n (env.sha256 n) s s')
    (ho : o ≠ .default) (hn : Proper env n)
    (hrequests : ∀ o q, s'.requests o = some q → s.requests o = some q) : Paired env s' := by
  have hsame : ∀ x, s.primaryNames o = some x → x.name = n := fun x hx => by
    obtain ⟨howner, hne, -⟩ := hs.reverse o x hx
    exact (h.free x hx).resolve_left fun hd => hne (howner ▸ hd)
  have hmine : ∀ r, s.reverses (env.sha256 n) = some r → r.owner = o := fun r hr => by
    obtain ⟨-, x, hx, -⟩ := hs.forward _ r hr
    exact (h.free' r hr).resolve_left (hs.reverse _ x hx).2.1
  constructor
  · intro o' x hx
    rw [h.primaryNames] at hx
    rw [h.reverses]
    by_cases heq : o' = o
    · subst heq
      rw [Function.update_self] at hx
      obtain rfl := Option.some.inj hx
      exact ⟨rfl, ho, hn, _, Function.update_self .., rfl, rfl⟩
    · rw [Function.update_of_ne heq] at hx
      obtain ⟨howner, hne, hproper, r, hr, hname, hback⟩ := hs.reverse o' x hx
      refine ⟨howner, hne, hproper, r, ?_, hname, hback⟩
      -- the other name has another hash, since its entry has another owner
      rw [Function.update_of_ne, hr]
      intro hhash
      exact heq (hback.symm.trans (hmine r (hhash ▸ hr)))
  · intro hash r hr
    rw [h.reverses] at hr
    rw [h.primaryNames]
    by_cases heq : hash = env.sha256 n
    · subst heq
      rw [Function.update_self] at hr
      obtain rfl := Option.some.inj hr
      exact ⟨rfl, _, Function.update_self .., rfl⟩
    · rw [Function.update_of_ne heq] at hr
      obtain ⟨hhash, x, hx, hname⟩ := hs.forward hash r hr
      refine ⟨hhash, x, ?_, hname⟩
      rw [Function.update_of_ne, hx]
      intro howner
      refine heq (hhash.trans ?_)
      rw [← hname, hsame x (howner ▸ hx)]
  · intro o' q hq
    exact hs.requests o' q (hrequests o' q hq)

lemma Unnamed.paired (hs : Paired env s) (h : Unnamed env o x s s') : Paired env s' := by
  obtain ⟨-, -, hproper, r, hr, hname, hback⟩ := hs.reverse o x h.was
  have hgone := h.reverses
  rw [hproper.lower] at hgone
  constructor
  · intro o' x' hx
    rw [h.primaryNames] at hx
    by_cases heq : o' = o
    · rw [heq, Function.update_self] at hx
      cases hx
    · rw [Function.update_of_ne heq] at hx
      obtain ⟨howner, hne, hproper', r', hr', hname', hback'⟩ := hs.reverse o' x' hx
      refine ⟨howner, hne, hproper', r', ?_, hname', hback'⟩
      rw [hgone, Function.update_of_ne, hr']
      intro hhash
      rw [hhash, hr] at hr'
      obtain rfl := Option.some.inj hr'
      exact heq (hback'.symm.trans hback)
  · intro hash r' hr'
    rw [hgone] at hr'
    by_cases heq : hash = env.sha256 x.name
    · rw [heq, Function.update_self] at hr'
      cases hr'
    · rw [Function.update_of_ne heq] at hr'
      obtain ⟨hhash, x', hx', hname'⟩ := hs.forward hash r' hr'
      refine ⟨hhash, x', ?_, hname'⟩
      rw [h.primaryNames, Function.update_of_ne, hx']
      intro howner
      rw [howner, h.was] at hx'
      obtain rfl := Option.some.inj hx'
      exact heq (hhash.trans (congrArg env.sha256 hname'.symm))
  · rw [h.requests]
    exact hs.requests

lemma requests_of_closed {requests : Pubkey → Option PrimaryNameRequest} (o : Pubkey) :
    ∀ o' q, Function.update requests o none o' = some q → requests o' = some q := by
  intro o' q hq
  by_cases heq : o' = o
  · rw [heq, Function.update_self] at hq
    cases hq
  · rwa [Function.update_of_ne heq] at hq

theorem step_paired (hlower : LowersAscii env.toLowercase) (hs : Paired env s)
    (h : PrimaryNameStep env s e s') : Paired env s' := by
  obtain ⟨hsigned, h⟩ := h
  cases e with
  | others config gar =>
    cases h
    exact hs.of_accounts rfl rfl hs.requests
  | call clock c =>
    change c.exec env clock s = .ok s' at h
    cases c with
    | request p text =>
      have hr := requestPrimaryName_ok h
      refine hs.of_accounts hr.primaryNames hr.reverses fun o q hq => ?_
      rw [hr.requests] at hq
      by_cases heq : o = p.initiator
      · subst heq
        rw [Function.update_self] at hq
        obtain rfl := Option.some.inj hq
        exact ⟨rfl, hsigned, .of_valid hlower hr.valid⟩
      · rw [Function.update_of_ne heq] at hq
        exact hs.requests o q hq
    | requestAndSet p text hash antProgramId =>
      obtain ⟨hvalid, rfl, -, hnamed, hrequests⟩ := requestAndSetPrimaryName_ok h
      exact hnamed.paired hs hsigned (.of_valid hlower hvalid) fun o q hq => hrequests ▸ hq
    | approve nameOwner initiator hash antProgramId remaining =>
      obtain ⟨q, hget, -, -, rfl, -, hnamed, hrequests⟩ := approvePrimaryName_ok h
      obtain ⟨-, hne, hproper⟩ := hs.requests initiator q hget
      exact hnamed.paired hs hne hproper (hrequests ▸ requests_of_closed initiator)
    | closeExpired payer initiator =>
      obtain ⟨-, rfl⟩ := closeExpiredRequest_ok h
      exact hs.of_accounts rfl rfl fun o q hq =>
        hs.requests o q (requests_of_closed initiator o q hq)
    | remove owner hash =>
      obtain ⟨x, hgone⟩ := removePrimaryName_ok h
      exact hgone.paired hs
    | removeForBaseName nameOwner owner hash antProgramId remaining =>
      obtain ⟨x, hgone, -⟩ := removePrimaryNameForBaseName_ok h
      exact hgone.paired hs

/-! ### The table -/

/-- The table of names that the accounts stand for. -/
def Paired.names (hs : Paired env s) : Pubkey ≃. List UInt8 where
  toFun o := (s.primaryNames o).map (·.name)
  invFun n := ((s.reverses (env.sha256 n)).filter fun r => r.name = n).map (·.owner)
  inv o n := by
    simp only [Option.map_eq_some_iff, Option.filter_eq_some_iff,
      decide_eq_true_eq]
    constructor
    · rintro ⟨r, ⟨hr, hname⟩, rfl⟩
      obtain ⟨-, x, hx, hsame⟩ := hs.forward _ r hr
      exact ⟨x, hx, hsame.trans hname⟩
    · rintro ⟨x, hx, rfl⟩
      obtain ⟨-, -, -, r, hr, hname, hback⟩ := hs.reverse o x hx
      exact ⟨r, ⟨hr, hname⟩, hback⟩

lemma Paired.names_apply (hs : Paired env s) (o : Pubkey) :
    hs.names o = (s.primaryNames o).map (·.name) := rfl

/-- Who may connect an address with a name: the address itself, as the owner of the name's record,
or that owner, for an address that asked for the name. -/
inductive MaySet (env : PrimaryNameEnv) (clock : ℤ) (s : PrimaryNameState) :
    PrimaryNameCall → Pubkey → List UInt8 → Prop
  | owner {p : NamePayment} {text : List UInt8} {hash : Bytes32} {antProgramId : Pubkey}
      (valid : validatePrimaryNameFormat text = .ok ())
      (owns : OwnsName env clock s.config.arnsProgram p.infos (baseName (env.toLowercase text))
        (recordName (env.toLowercase text)) p.initiator) :
      MaySet env clock s (.requestAndSet p text hash antProgramId) p.initiator
        (env.toLowercase text)
  | approver {nameOwner o : Pubkey} {hash : Bytes32} {antProgramId : Pubkey}
      {remaining : List AccountInfo} {q : PrimaryNameRequest} (asked : s.requests o = some q)
      (unexpired : clock < q.expiresAt)
      (owns : OwnsName env clock s.config.arnsProgram remaining (baseName q.name)
        (recordName q.name) nameOwner) :
      MaySet env clock s (.approve nameOwner o hash antProgramId remaining) o q.name

/-- Who may take a name from an address: the address itself, or the owner of the base name. -/
inductive MayRemove (env : PrimaryNameEnv) (clock : ℤ) (s : PrimaryNameState) :
    PrimaryNameCall → Pubkey → List UInt8 → Prop
  | owner {o : Pubkey} {hash : Bytes32} {n : List UInt8} : MayRemove env clock s
      (.remove o hash) o n
  | baseOwner {nameOwner o : Pubkey} {hash : Bytes32} {antProgramId : Pubkey}
      {remaining : List AccountInfo} {n : List UInt8}
      (owns : OwnsName env clock s.config.arnsProgram remaining (baseName n) (ascii "@")
        nameOwner) :
      MayRemove env clock s (.removeForBaseName nameOwner o hash antProgramId remaining) o n

/-- What a call does to the table. -/
inductive NamesMove (env : PrimaryNameEnv) (clock : ℤ) (s : PrimaryNameState)
    (f : Pubkey ≃. List UInt8) : PrimaryNameCall → (Pubkey ≃. List UInt8) → Prop
  | request {p : NamePayment} {text : List UInt8} : NamesMove env clock s f (.request p text) f
  | closeExpired {payer initiator : Pubkey} :
      NamesMove env clock s f (.closeExpired payer initiator) f
  | set {c : PrimaryNameCall} {o : Pubkey} {n : List UInt8} (may : MaySet env clock s c o n)
      (free : ∀ n' ∈ f o, n' = n)
      (free' : ∀ o' ∈ f.symm n, o' = o) : NamesMove env clock s f c (link f o n free free')
  | remove {c : PrimaryNameCall} {o : Pubkey} {n : List UInt8}
      (may : MayRemove env clock s c o n) (linked : n ∈ f o) :
      NamesMove env clock s f c (unlink f o n linked)

lemma Named.move (hs : Paired env s) (hs' : Paired env s')
    (h : Named env clock o n (env.sha256 n) s s') (may : MaySet env clock s c o n) :
    NamesMove env clock s hs.names c hs'.names := by
  have free : ∀ n' ∈ hs.names o, n' = n := by
    intro n' hn'
    obtain ⟨x, hx, rfl⟩ := Option.mem_map.mp hn'
    obtain ⟨howner, hne, -⟩ := hs.reverse o x hx
    exact (h.free x hx).resolve_left fun hd => hne (howner ▸ hd)
  have free' : ∀ o' ∈ hs.names.symm n, o' = o := by
    intro o' ho'
    obtain ⟨x, hx, rfl⟩ := Option.mem_map.mp (hs.names.mem_iff_mem.mp ho')
    obtain ⟨-, hne, -, r, hr, -, rfl⟩ := hs.reverse o' x hx
    exact (h.free' r hr).resolve_left hne
  have heq : hs'.names = link hs.names o n free free' := by
    refine PEquiv.ext fun o' => ?_
    rw [link_apply, hs'.names_apply, hs.names_apply, h.primaryNames]
    by_cases ho : o' = o
    · rw [ho, Function.update_self, if_pos rfl]
      rfl
    · rw [Function.update_of_ne ho, if_neg ho]
  rw [heq]
  exact .set may free free'

lemma Unnamed.move (hs : Paired env s) (hs' : Paired env s') (h : Unnamed env o x s s')
    (may : MayRemove env clock s c o x.name) : NamesMove env clock s hs.names c hs'.names := by
  have linked : x.name ∈ hs.names o := Option.mem_map.mpr ⟨x, h.was, rfl⟩
  have heq : hs'.names = unlink hs.names o x.name linked := by
    refine PEquiv.ext fun o' => ?_
    rw [unlink_apply, hs'.names_apply, hs.names_apply, h.primaryNames]
    by_cases ho : o' = o
    · rw [ho, Function.update_self, if_pos rfl]
      rfl
    · rw [Function.update_of_ne ho, if_neg ho]
  rw [heq]
  exact .remove may linked

lemma names_kept (hs : Paired env s) (hs' : Paired env s')
    (h : s'.primaryNames = s.primaryNames) : hs'.names = hs.names := by
  refine PEquiv.ext fun o => ?_
  rw [hs'.names_apply, hs.names_apply, h]

/-- **One call moves the table** as it may. -/
theorem call_moves (hs : Paired env s) (hs' : Paired env s') (h : c.exec env clock s = .ok s') :
    NamesMove env clock s hs.names c hs'.names := by
  cases c with
  | request p text =>
    rw [names_kept hs hs' (requestPrimaryName_ok h).primaryNames]
    exact .request
  | requestAndSet p text hash antProgramId =>
    obtain ⟨hvalid, rfl, howns, hnamed, -⟩ := requestAndSetPrimaryName_ok h
    exact hnamed.move hs hs' (.owner hvalid howns)
  | approve nameOwner initiator hash antProgramId remaining =>
    obtain ⟨q, hget, -, hopen, rfl, howns, hnamed, -⟩ := approvePrimaryName_ok h
    rw [(hs.requests initiator q hget).2.2.lower] at howns
    exact hnamed.move hs hs' (.approver hget hopen howns)
  | closeExpired payer initiator =>
    obtain ⟨-, rfl⟩ := closeExpiredRequest_ok h
    rw [names_kept hs hs' rfl]
    exact .closeExpired
  | remove owner hash =>
    obtain ⟨x, hgone⟩ := removePrimaryName_ok h
    exact hgone.move hs hs' .owner
  | removeForBaseName nameOwner owner hash antProgramId remaining =>
    obtain ⟨x, hgone, howns⟩ := removePrimaryNameForBaseName_ok h
    rw [(hs.reverse owner x hgone.was).2.2.1.lower] at howns
    exact hgone.move hs hs' (.baseOwner howns)

/-! ### Runs -/

lemma FreshPrimaryNames.paired (h : FreshPrimaryNames s) : Paired env s := by
  refine ⟨fun o x hx => ?_, fun hash r hr => ?_, fun o q hq => ?_⟩
  · rw [h.primaryNames o] at hx
    cases hx
  · rw [h.reverses hash] at hr
    cases hr
  · rw [h.requests o] at hq
    cases hq

lemma run_paired (hlower : LowersAscii env.toLowercase) (hfresh : FreshPrimaryNames s₀)
    (run : Run (PrimaryNameStep env) s₀ tr s) : Paired env s := by
  refine run.invariant (P := Paired env) (A := fun _ => True) hfresh.paired ?_ fun _ _ => trivial
  intro s e s' _ hs h
  exact step_paired hlower hs h

/-- **In every state that is reached the two directions agree.** -/
theorem primary_names_paired (hlower : LowersAscii env.toLowercase) (hfresh : FreshPrimaryNames s₀)
    (run : Run (PrimaryNameStep env) s₀ tr s) : Paired env s := run_paired hlower hfresh run

open SmallPrimaryNames in
theorem primary_names_paired_small : Paired world (now [approve, ask]) :=
  primary_names_paired lowersAscii fresh run_approved

/-- What an event does to the table. -/
def TableMoves (env : PrimaryNameEnv) (ev : Step PrimaryNameState PrimaryNameEvent)
    (f f' : Pubkey ≃. List UInt8) : Prop :=
  match ev.label with
  | .others _ _ => f' = f
  | .call clock c => NamesMove env clock ev.before f c f'

/-- **Every step of every run** connects or disconnects an address and a name as it may, or leaves
the table. -/
theorem primary_names_move (hlower : LowersAscii env.toLowercase) (hfresh : FreshPrimaryNames s₀)
    (run : Run (PrimaryNameStep env) s₀ tr s) :
    ∀ ev ∈ tr, ∃ (hb : Paired env ev.before) (ha : Paired env ev.after),
      TableMoves env ev hb.names ha.names := by
  intro ev hev
  obtain ⟨tr', run', hstep, -⟩ := run.of_mem hev
  have hb := run_paired hlower hfresh run'
  have ha := step_paired hlower hb hstep
  refine ⟨hb, ha, ?_⟩
  obtain ⟨-, hexec⟩ := hstep
  unfold TableMoves
  split
  · rename_i hlabel
    rw [hlabel] at hexec
    refine names_kept hb ha ?_
    rw [← Except.ok.inj hexec]
  · rename_i hlabel
    rw [hlabel] at hexec
    exact call_moves hb ha hexec

open SmallPrimaryNames in
theorem primary_names_move_small : {ev | ev ∈ history [approve, ask]} ⊆
    {ev | ∃ (hb : Paired world ev.before) (ha : Paired world ev.after),
      TableMoves world ev hb.names ha.names} :=
  primary_names_move lowersAscii fresh run_approved

/-! ### Consent -/

/-- The address itself asked for the name, at the time and for the time that the request says. -/
def AskedIn (env : PrimaryNameEnv) (tr : List (Step PrimaryNameState PrimaryNameEvent)) (o : Pubkey)
    (q : PrimaryNameRequest) : Prop :=
  ∃ ev ∈ tr, ∃ p text, ev.label = .call q.createdAt (.request p text) ∧ p.initiator = o ∧
    env.toLowercase text = q.name ∧
    q.expiresAt = q.createdAt + ev.before.config.primaryNameRequestExpiry

/-- How a request ends: with its approval while it lasts, or by anyone once it has expired. -/
inductive RequestEnds (o : Pubkey) (q : PrimaryNameRequest) : PrimaryNameEvent → Prop
  | approved {clock : ℤ} {nameOwner : Pubkey} {hash : Bytes32} {antProgramId : Pubkey}
      {remaining : List AccountInfo} (unexpired : clock < q.expiresAt) :
      RequestEnds o q (.call clock (.approve nameOwner o hash antProgramId remaining))
  | expired {clock : ℤ} {payer : Pubkey} (late : q.expiresAt ≤ clock) :
      RequestEnds o q (.call clock (.closeExpired payer o))

/-- A step leaves a request, makes it where there was none, or ends it. -/
inductive RequestMove (env : PrimaryNameEnv) (s : PrimaryNameState) (e : PrimaryNameEvent)
    (o : Pubkey) : Option PrimaryNameRequest → Option PrimaryNameRequest → Prop
  | kept {a : Option PrimaryNameRequest} : RequestMove env s e o a a
  | asked {clock : ℤ} {p : NamePayment} {text : List UInt8}
      (label : e = .call clock (.request p text)) (signer : p.initiator = o) :
      RequestMove env s e o none (some ⟨o, env.toLowercase text, clock,
        clock + s.config.primaryNameRequestExpiry, env.requestBump o, primaryNameVersion⟩)
  | ended {q : PrimaryNameRequest} (ends : RequestEnds o q e) : RequestMove env s e o (some q) none

lemma step_requests (h : PrimaryNameStep env s e s') (o : Pubkey) :
    RequestMove env s e o (s.requests o) (s'.requests o) := by
  obtain ⟨-, h⟩ := h
  cases e with
  | others config gar =>
    cases h
    exact .kept
  | call clock c =>
    change c.exec env clock s = .ok s' at h
    cases c with
    | request p text =>
      have hr := requestPrimaryName_ok h
      rw [hr.requests]
      by_cases heq : o = p.initiator
      · subst heq
        rw [Function.update_self, hr.free]
        exact .asked rfl rfl
      · rw [Function.update_of_ne heq]
        exact .kept
    | requestAndSet p text hash antProgramId =>
      obtain ⟨-, -, -, -, hrequests⟩ := requestAndSetPrimaryName_ok h
      rw [hrequests]
      exact .kept
    | approve nameOwner initiator hash antProgramId remaining =>
      obtain ⟨q, hget, -, hopen, -, -, -, hrequests⟩ := approvePrimaryName_ok h
      rw [hrequests]
      by_cases heq : o = initiator
      · subst heq
        rw [Function.update_self, hget]
        exact .ended (.approved hopen)
      · rw [Function.update_of_ne heq]
        exact .kept
    | closeExpired payer initiator =>
      obtain ⟨⟨q, hget, hlate⟩, rfl⟩ := closeExpiredRequest_ok h
      change RequestMove env s _ o (s.requests o) (Function.update s.requests initiator none o)
      by_cases heq : o = initiator
      · subst heq
        rw [Function.update_self, hget]
        exact .ended (.expired hlate)
      · rw [Function.update_of_ne heq]
        exact .kept
    | remove owner hash =>
      obtain ⟨x, hgone⟩ := removePrimaryName_ok h
      rw [hgone.requests]
      exact .kept
    | removeForBaseName nameOwner owner hash antProgramId remaining =>
      obtain ⟨x, hgone, -⟩ := removePrimaryNameForBaseName_ok h
      rw [hgone.requests]
      exact .kept

lemma AskedIn.mono {tr' : List (Step PrimaryNameState PrimaryNameEvent)} (h : AskedIn env tr o q)
    (hsub : tr ⊆ tr') : AskedIn env tr' o q := by
  obtain ⟨ev, hev, hasked⟩ := h
  exact ⟨ev, hsub hev, hasked⟩

lemma requests_asked (hfresh : FreshPrimaryNames s₀) (run : Run (PrimaryNameStep env) s₀ tr s) :
    ∀ q, s.requests o = some q → AskedIn env tr o q := by
  induction run with
  | nil =>
    intro q hq
    rw [hfresh.requests o] at hq
    cases hq
  | @cons tr s e s' run last ih =>
    intro q hq
    have hmove := step_requests last o
    rw [hq] at hmove
    generalize hbefore : s.requests o = a at hmove
    cases hmove with
    | kept => exact (ih q hbefore).mono (List.subset_cons_self _ _)
    | asked label signer =>
      exact ⟨_, List.mem_cons_self, _, _, label, signer, rfl, rfl⟩

/-- **The life of a request.** A request was made by the address that it is for, in lower case of
what it asked for, and it stands as it is until it is approved in time or closed late. -/
theorem request_life (hfresh : FreshPrimaryNames s₀) (run : Run (PrimaryNameStep env) s₀ tr s)
    (hget : s.requests o = some q) (last : PrimaryNameStep env s e s') :
    AskedIn env tr o q ∧ (s'.requests o = some q ∨ s'.requests o = none ∧ RequestEnds o q e) := by
  refine ⟨requests_asked hfresh run q hget, ?_⟩
  have hmove := step_requests last o
  rw [hget] at hmove
  generalize hafter : s'.requests o = a at hmove
  cases hmove with
  | kept => exact .inl rfl
  | ended ends => exact .inr ⟨rfl, ends⟩

open SmallPrimaryNames in
theorem request_life_small : ∃ q, q.name = ario ∧ AskedIn world (history [ask]) ⟨23⟩ q ∧
    RequestEnds ⟨23⟩ q approve := by
  refine ⟨⟨⟨23⟩, ario, 1000, 605800, 255, (1, 0, 0)⟩, rfl, ?_⟩
  have hget : (now [ask]).requests ⟨23⟩ =
      some ⟨⟨23⟩, ario, 1000, 605800, 255, (1, 0, 0)⟩ := by decide +kernel
  have hgone : (now [approve, ask]).requests ⟨23⟩ = none := by decide +kernel
  obtain ⟨hasked, hends⟩ := request_life fresh run_asked hget step_approved
  refine ⟨hasked, (hends.resolve_left fun h => ?_).2⟩
  rw [hgone] at h
  cases h

lemma step_primaryName (hs : Paired env s) (h : PrimaryNameStep env s e s')
    (hget : s'.primaryNames o = some x) : s.primaryNames o = some x ∨
      ∃ c, e = .call x.setAt c ∧ MaySet env x.setAt s c o x.name := by
  obtain ⟨-, h⟩ := h
  cases e with
  | others config gar =>
    cases h
    exact .inl hget
  | call clock c =>
    change c.exec env clock s = .ok s' at h
    have set_or_kept : ∀ {a n hash}, Named env clock a n hash s s' → MaySet env clock s c a n →
        s.primaryNames o = some x ∨
          ∃ c', PrimaryNameEvent.call clock c = .call x.setAt c' ∧
            MaySet env x.setAt s c' o x.name := by
      intro a n hash hnamed may
      rw [hnamed.primaryNames] at hget
      by_cases heq : o = a
      · subst heq
        rw [Function.update_self] at hget
        obtain rfl := Option.some.inj hget
        exact .inr ⟨c, rfl, may⟩
      · rw [Function.update_of_ne heq] at hget
        exact .inl hget
    have closed : ∀ {a y}, Unnamed env a y s s' → s.primaryNames o = some x := by
      intro a y hgone
      rw [hgone.primaryNames] at hget
      by_cases heq : o = a
      · rw [heq, Function.update_self] at hget
        cases hget
      · rwa [Function.update_of_ne heq] at hget
    cases c with
    | request p text => exact .inl ((requestPrimaryName_ok h).primaryNames ▸ hget)
    | requestAndSet p text hash antProgramId =>
      obtain ⟨hvalid, -, howns, hnamed, -⟩ := requestAndSetPrimaryName_ok h
      exact set_or_kept hnamed (.owner hvalid howns)
    | approve nameOwner initiator hash antProgramId remaining =>
      obtain ⟨q, hq, -, hopen, -, howns, hnamed, -⟩ := approvePrimaryName_ok h
      rw [(hs.requests initiator q hq).2.2.lower] at howns
      exact set_or_kept hnamed (.approver hq hopen howns)
    | closeExpired payer initiator =>
      obtain ⟨-, rfl⟩ := closeExpiredRequest_ok h
      exact .inl hget
    | remove owner hash =>
      obtain ⟨y, hgone⟩ := removePrimaryName_ok h
      exact .inl (closed hgone)
    | removeForBaseName nameOwner owner hash antProgramId remaining =>
      obtain ⟨y, hgone, -⟩ := removePrimaryNameForBaseName_ok h
      exact .inl (closed hgone)

/-- The address of a name agreed to it: it set the name itself, or it had asked for it and the
request had not expired. -/
def AgreedBy (env : PrimaryNameEnv) (tr : List (Step PrimaryNameState PrimaryNameEvent))
    (o : Pubkey)
    (x : PrimaryName) (c : PrimaryNameCall) : Prop :=
  c.signer = o ∨ ∃ q, AskedIn env tr o q ∧ q.name = x.name ∧ x.setAt < q.expiresAt

/-- **No name without consent.** Every name in force was set by the owner of the name's record,
while the base name was active, and with the agreement of the address. -/
theorem primary_name_granted (hlower : LowersAscii env.toLowercase) (hfresh : FreshPrimaryNames s₀)
    (run : Run (PrimaryNameStep env) s₀ tr s) (hget : s.primaryNames o = some x) :
    ∃ ev ∈ tr, ∃ c, ev.label = .call x.setAt c ∧ MaySet env x.setAt ev.before c o x.name ∧
      AgreedBy env tr o x c := by
  induction run with
  | nil =>
    rw [hfresh.primaryNames o] at hget
    cases hget
  | @cons tr s e s' run last ih =>
    have hs := run_paired hlower hfresh run
    rcases step_primaryName hs last hget with hold | ⟨c, rfl, may⟩
    · obtain ⟨ev, hev, c, hlabel, may, hagreed⟩ := ih hold
      refine ⟨ev, List.mem_cons_of_mem _ hev, c, hlabel, may, hagreed.imp_right ?_⟩
      rintro ⟨q, hasked, hq⟩
      exact ⟨q, hasked.mono (List.subset_cons_self _ _), hq⟩
    · refine ⟨_, List.mem_cons_self, c, rfl, may, ?_⟩
      generalize hname : x.name = n at may
      cases may with
      | owner valid owns => exact .inl rfl
      | approver asked unexpired owns =>
        refine .inr ⟨_, ?_, hname.symm, unexpired⟩
        exact (requests_asked hfresh run _ asked).mono (List.subset_cons_self _ _)

open SmallPrimaryNames in
theorem primary_name_granted_small : ∃ ev ∈ history [approve, ask], ∃ c, ev.label = .call 2000 c ∧
    MaySet world 2000 ev.before c ⟨23⟩ ario ∧
    AgreedBy world (history [approve, ask]) ⟨23⟩ ⟨⟨23⟩, ario, 2000, 254, (1, 0, 0)⟩ c :=
  primary_name_granted lowersAscii fresh run_approved
    (show (now [approve, ask]).primaryNames ⟨23⟩ =
      some ⟨⟨23⟩, ario, 2000, 254, (1, 0, 0)⟩ by decide +kernel)

end

end Core
end ArioSolana
