import ArioSolana.EscrowAnt
import ArioSolana.EscrowExits
import ArioSolana.HashChain

/-!
# What happens at one escrow address

An escrow address is used again and again: a deposit opens an escrow there, its recipient may be
changed, and a claim, a cancellation or a purge closes it. `Deed` names what a call does at its
address, and `step_happens` says what a step of the whole program makes of the nonce there.
-/

namespace ArioSolana
namespace Escrow

open Checked Solana

variable {env : AntEnv} {tx : Transaction} {w w' : World} {e : WorldEvent} {a : Pubkey}

/-! ### Deeds -/

/-- An escrow address: of tokens, locked or not, or of an asset. -/
inductive Place where
  | token (address : Pubkey)
  | ant (address : Pubkey)
deriving DecidableEq

/-- What an initial nonce is derived from. -/
structure DepositKey where
  slot : ℕ
  assetId : Bytes32
  depositor : Pubkey
deriving DecidableEq

inductive Deed where
  | deposit (key : DepositKey)
  | rotation (slot : ℕ)
  | claim (assetType : String) (claimant : Pubkey)
  | cancel
  | purge

/-- What a call does to which escrow of tokens. -/
def Instruction.deed (tx : Transaction) : Instruction → Pubkey × Deed
  | .depositTokens accounts assetId _ _ _ =>
    (accounts.escrow, .deposit ⟨tx.clock.slot, assetId, accounts.depositor⟩)
  | .depositVault accounts assetId _ _ _ _ _ =>
    (accounts.escrow, .deposit ⟨tx.clock.slot, assetId, accounts.depositor⟩)
  | .updateTokenRecipient escrow _ _ _ => (escrow, .rotation tx.clock.slot)
  | .updateVaultRecipient escrow _ _ _ => (escrow, .rotation tx.clock.slot)
  | .cancelTokenDeposit accounts => (accounts.escrow, .cancel)
  | .cancelVaultDeposit accounts => (accounts.escrow, .cancel)
  | .claimTokensEthereum accounts _ _ => (accounts.escrow, .claim "token" accounts.claimant)
  | .claimTokensArweaveAttested accounts _ => (accounts.escrow, .claim "token" accounts.claimant)
  | .claimVaultEthereum accounts _ _ _ => (accounts.escrow, .claim "vault" accounts.claimant)
  | .claimVaultArweaveAttested accounts _ _ => (accounts.escrow, .claim "vault" accounts.claimant)

/-- What a call does to which escrow of an asset. -/
def AntInstruction.deed (tx : Transaction) : AntInstruction → Pubkey × Deed
  | .depositAnt accounts _ _ =>
    (accounts.escrow, .deposit ⟨tx.clock.slot, keyBytes accounts.antAsset, accounts.depositor⟩)
  | .updateRecipient escrow _ _ _ => (escrow, .rotation tx.clock.slot)
  | .cancelDeposit accounts => (accounts.escrow, .cancel)
  | .claimAntEthereum accounts _ _ => (accounts.escrow, .claim "ant" accounts.claimant)
  | .claimAntArweaveAttested accounts _ => (accounts.escrow, .claim "ant" accounts.claimant)
  | .adminPurgeUnclaimedAnt escrow _ _ => (escrow, .purge)

/-- What an event does at an escrow address. -/
def WorldEvent.deedAt : WorldEvent → Place → Option Deed
  | .token ⟨tx, .call i⟩, .token a => if (i.deed tx).1 = a then some (i.deed tx).2 else none
  | .ant tx (.call i), .ant a => if (i.deed tx).1 = a then some (i.deed tx).2 else none
  | _, _ => none

/-- The nonce of the escrow at an address. -/
def World.nonceAt (w : World) : Place → Option Bytes32
  | .token a => (w.tokenSide.escrows a).map (·.nonce)
  | .ant a => (w.antSide.ants a).map (·.nonce)

/-! ### Messages -/

/-- The message that a claim at an address is checked against. -/
def World.claimMessage (env : AntEnv) (w : World) (p : Place) (assetType : String)
    (claimant : Pubkey) : Option (List UInt8) :=
  match p with
  | .token a => (w.tokenSide.escrows a).map fun escrow =>
      buildEscrowClaimMessage env.toEnv assetType escrow claimant
  | .ant a => (w.antSide.ants a).map fun escrow =>
      buildAntEscrowClaimMessage env.toEnv escrow claimant

/-- The message is a claim of the escrow that has the nonce `n`: its last field is the nonce. -/
def Names (n : Bytes32) (message : List UInt8) : Prop :=
  ∃ front, message = front ++ encodeHexLowercase n.toList

lemma encodeHexLowercase_length (bytes : List UInt8) :
    (encodeHexLowercase bytes).length = 2 * bytes.length := by
  induction bytes with
  | nil => rfl
  | cons b bytes ih =>
    simp only [encodeHexLowercase, List.flatMap_cons, List.length_append, List.length_cons,
      List.length_nil] at ih ⊢
    omega

private lemma hexDigit_inj {i j : ℕ} (hi : i < 16) (hj : j < 16)
    (h : (ascii "0123456789abcdef").getD i 0 = (ascii "0123456789abcdef").getD j 0) : i = j := by
  have key : ∀ i j : Fin 16, (ascii "0123456789abcdef").getD i 0
      = (ascii "0123456789abcdef").getD j 0 → i = j := by decide
  exact Fin.val_eq_of_eq (key ⟨i, hi⟩ ⟨j, hj⟩ h)

lemma encodeHexLowercase_injective : Function.Injective encodeHexLowercase := by
  intro bytes
  induction bytes with
  | nil =>
    intro bytes' h
    have hlen := congrArg List.length h
    simp only [encodeHexLowercase_length, List.length_nil] at hlen
    exact (List.length_eq_zero_iff.mp (by omega)).symm
  | cons b bytes ih =>
    intro bytes' h
    cases bytes' with
    | nil =>
      have hlen := congrArg List.length h
      simp only [encodeHexLowercase_length, List.length_nil, List.length_cons] at hlen
      omega
    | cons b' bytes' =>
      simp only [encodeHexLowercase, List.flatMap_cons, List.cons_append, List.nil_append,
        List.cons.injEq] at h
      obtain ⟨hhigh, hlow, htail⟩ := h
      have hb := b.toNat_lt
      have hb' := b'.toNat_lt
      have h1 := hexDigit_inj (by omega) (by omega) hhigh
      have h2 := hexDigit_inj (by omega) (by omega) hlow
      have hbyte : b = b' := UInt8.toNat_inj.mp (by omega)
      rw [hbyte, ih htail]

lemma Names.unique {n n' : Bytes32} {m : List UInt8} (h : Names n m) (h' : Names n' m) :
    n = n' := by
  obtain ⟨front, rfl⟩ := h
  obtain ⟨front', heq⟩ := h'
  have hlen : (encodeHexLowercase n.toList).length = (encodeHexLowercase n'.toList).length := by
    simp only [encodeHexLowercase_length, Vector.length_toList]
  have htail := (List.append_inj' heq hlen).2
  exact Vector.toList_inj.mp (encodeHexLowercase_injective htail)

lemma World.claimMessage_names (env : AntEnv) {p : Place} (assetType : String) (claimant : Pubkey)
    {n : Bytes32} (h : w.nonceAt p = some n) :
    ∃ m, w.claimMessage env p assetType claimant = some m ∧ Names n m := by
  cases p with
  | token a =>
    obtain ⟨escrow, hget, rfl⟩ := Option.map_eq_some_iff.mp h
    exact ⟨buildEscrowClaimMessage env.toEnv assetType escrow claimant,
      by rw [claimMessage, hget, Option.map_some], _, rfl⟩
  | ant a =>
    obtain ⟨escrow, hget, rfl⟩ := Option.map_eq_some_iff.mp h
    exact ⟨buildAntEscrowClaimMessage env.toEnv escrow claimant,
      by rw [claimMessage, hget, Option.map_some], _, rfl⟩

/-! ### Inputs of the hash -/

def DepositKey.input (key : DepositKey) : List UInt8 :=
  u64Le key.slot ++ key.assetId.toList ++ pubkeyBytes key.depositor

/-- What the next nonce at an address is derived from when the recipient changes. -/
def World.rotatedInput (w : World) (p : Place) (slot : ℕ) : Option (List UInt8) :=
  match p with
  | .token a => (w.tokenSide.escrows a).map fun escrow =>
      u64Le slot ++ escrow.assetId.toList ++ pubkeyBytes escrow.depositor ++ escrow.nonce.toList
  | .ant a => (w.antSide.ants a).map fun escrow =>
      u64Le slot ++ (keyBytes escrow.antMint).toList ++ pubkeyBytes escrow.depositor
        ++ escrow.nonce.toList

/-- The input contains the nonce `n` behind the slot, the asset and the depositor. -/
def Extends (n : Bytes32) (input : List UInt8) : Prop :=
  ∃ front, front.length = 72 ∧ input = front ++ n.toList

lemma DepositKey.input_length (key : DepositKey) : key.input.length = 72 := by
  simp [input, u64Le_length, pubkeyBytes_length]

lemma World.rotatedInput_extends {p : Place} (slot : ℕ) {n : Bytes32}
    (h : w.nonceAt p = some n) : ∃ i, w.rotatedInput p slot = some i ∧ Extends n i := by
  cases p with
  | token a =>
    obtain ⟨escrow, hget, rfl⟩ := Option.map_eq_some_iff.mp h
    refine ⟨_, by rw [rotatedInput, hget, Option.map_some], _, ?_, rfl⟩
    simp [u64Le_length, pubkeyBytes_length]
  | ant a =>
    obtain ⟨escrow, hget, rfl⟩ := Option.map_eq_some_iff.mp h
    refine ⟨_, by rw [rotatedInput, hget, Option.map_some], _, ?_, rfl⟩
    simp [u64Le_length, pubkeyBytes_length]

/-- A rotated input is longer than an initial one, and ends with the nonce before it. -/
lemma readable_inputs : HashChain.Readable (fun i : List UInt8 => i.length = 72) Extends where
  not_fresh n i h := by
    obtain ⟨front, hlen, rfl⟩ := h
    simp [hlen]
  unique n n' i h h' := by
    obtain ⟨front, hlen, rfl⟩ := h
    obtain ⟨front', hlen', heq⟩ := h'
    exact Vector.toList_inj.mp (List.append_inj heq (by omega)).2

/-! ### Escrows of tokens -/

section

variable {s s' : State} {i : Instruction} {env : Env} {seed : EscrowSeed} {depositor : Pubkey}

/-- What a call makes of the escrow at its address. -/
inductive Wrote (env : Env) : Option EscrowToken → Option EscrowToken → Deed → Prop
  | deposit {x key} (nonce : x.nonce = env.sha256 key.input) : Wrote env none (some x)
      (.deposit key)
  | rotation {x y slot} (nonce : y.nonce = env.sha256
      (u64Le slot ++ x.assetId.toList ++ pubkeyBytes x.depositor ++ x.nonce.toList)) :
      Wrote env (some x) (some y) (.rotation slot)
  | claim {x assetType claimant} : Wrote env (some x) none (.claim assetType claimant)
  | cancel {x} : Wrote env (some x) none .cancel

/-- The call writes only the escrow at its address, as its deed says. -/
def WroteAt (env : Env) (s s' : State) (deed : Pubkey × Deed) : Prop :=
  ∃ o, s'.escrows = Function.update s.escrows deed.1 o ∧
    Wrote env (s.escrows deed.1) o deed.2

lemma checkDepositAccounts_vacant {accounts : DepositAccounts} {assetId : Bytes32} {u : Unit}
    (h : checkDepositAccounts env seed accounts assetId s = .ok u) :
    s.escrows accounts.escrow = none := by
  simp only [checkDepositAccounts, bind_eq_ok, require_eq_ok, exists_const] at h
  exact Option.isNone_iff_eq_none.mp h.2.1

lemma depositTokens_wrote {accounts : DepositAccounts} {assetId : Bytes32} {amount protocol : ℕ}
    {pubkey : List UInt8}
    (h : depositTokens env tx accounts assetId amount protocol pubkey s = .ok s') :
    WroteAt env s s' (accounts.escrow, .deposit ⟨tx.clock.slot, assetId, accounts.depositor⟩) := by
  simp only [depositTokens, bind_eq_ok, require_eq_ok, exists_const, pure_eq_ok] at h
  obtain ⟨_, hacc, -, _, -, s₁, hmove, rfl⟩ := h
  refine ⟨_, by rw [State.setEscrow_escrows, splTransfer_escrows hmove], ?_⟩
  rw [checkDepositAccounts_vacant hacc]
  exact .deposit rfl

lemma depositVault_wrote {accounts : DepositAccounts} {assetId : Bytes32} {amount protocol : ℕ}
    {lock : ℤ} {revocable : Bool} {pubkey : List UInt8}
    (h : depositVault env tx accounts assetId amount lock revocable protocol pubkey s = .ok s') :
    WroteAt env s s' (accounts.escrow, .deposit ⟨tx.clock.slot, assetId, accounts.depositor⟩) := by
  simp only [depositVault, bind_eq_ok, require_eq_ok, exists_const, pure_eq_ok] at h
  obtain ⟨_, hacc, -, -, -, -, _, -, s₁, hmove, _, -, rfl⟩ := h
  refine ⟨_, by rw [State.setEscrow_escrows, splTransfer_escrows hmove], ?_⟩
  rw [checkDepositAccounts_vacant hacc]
  exact .deposit rfl

lemma updateRecipient_wrote {newProtocol : ℕ} {newPubkey : List UInt8}
    (h : updateRecipient seed env tx a depositor newProtocol newPubkey s = .ok s') :
    WroteAt env s s' (a, .rotation tx.clock.slot) := by
  simp only [updateRecipient, bind_eq_ok, checkEscrow_ok, pure_eq_ok] at h
  obtain ⟨escrow, ⟨hlive, -, -⟩, _, -, rfl⟩ := h
  refine ⟨_, rfl, ?_⟩
  rw [hlive]
  exact .rotation rfl

lemma transferThenClose_closed {k d : Pubkey} {amount : ℕ}
    (h : transferThenClose a k d amount s = .ok s') :
    s'.escrows = Function.update s.escrows a none := by
  obtain ⟨t, t', -, -, rfl⟩ := transferThenClose_ok.mp h
  rfl

lemma settleVaultClaim_closed {cenv : CoreEnv} {now : ℤ} {accounts : ClaimAccounts}
    {extra : RelockAccounts} {escrow : EscrowToken}
    (h : settleVaultClaim cenv now accounts extra escrow s = .ok s') :
    s'.escrows = Function.update s.escrows accounts.escrow none := by
  simp only [settleVaultClaim, bind_eq_ok, require_eq_ok, exists_const, pure_eq_ok] at h
  obtain ⟨-, s₁, hmoves, s₂, hclose, rfl⟩ := h
  rw [State.setEscrow_escrows, (splCloseAccount_moves hclose).1, (moveVaultTokens_moves hmoves).1]

lemma cancelDeposit_wrote {accounts : CancelAccounts}
    (h : cancelDeposit seed env accounts s = .ok s') :
    WroteAt env s s' (accounts.escrow, .cancel) := by
  simp only [cancelDeposit, bind_eq_ok, checkEscrow_ok] at h
  obtain ⟨_, ⟨hlive, -, -⟩, _, -, _, -, h⟩ := h
  refine ⟨none, transferThenClose_closed h, ?_⟩
  rw [hlive]
  exact .cancel

lemma checkClaim_live {assetType protocol : ℕ} {label : String} {accounts : ClaimAccounts}
    {verify : EscrowToken → List UInt8 → Except EscrowError Unit} {messageNonce : Bytes32}
    {escrow : EscrowToken}
    (h : checkClaim env seed assetType protocol label verify accounts messageNonce s
      = .ok escrow) : s.escrows accounts.escrow = some escrow := by
  simp only [checkClaim, bind_eq_ok, checkEscrow_ok, require_eq_ok, exists_const, pure_eq_ok] at h
  obtain ⟨x, ⟨hlive, -, -⟩, _, -, _, -, -, -, -, _, -, rfl⟩ := h
  exact hlive

lemma claim_wrote {assetType protocol : ℕ} {label label' : String} {accounts : ClaimAccounts}
    {verify : EscrowToken → List UInt8 → Except EscrowError Unit} {messageNonce : Bytes32}
    {escrow : EscrowToken}
    (hcheck : checkClaim env seed assetType protocol label verify accounts messageNonce s
      = .ok escrow)
    (hclosed : s'.escrows = Function.update s.escrows accounts.escrow none) :
    WroteAt env s s' (accounts.escrow, .claim label' accounts.claimant) := by
  refine ⟨none, hclosed, ?_⟩
  rw [checkClaim_live hcheck]
  exact .claim

lemma handler_wrote (h : i.handler env tx s = .ok s') : WroteAt env s s' (i.deed tx) := by
  cases i with
  | depositTokens => exact depositTokens_wrote h
  | depositVault => exact depositVault_wrote h
  | updateTokenRecipient => exact updateRecipient_wrote h
  | updateVaultRecipient => exact updateRecipient_wrote h
  | cancelTokenDeposit => exact cancelDeposit_wrote h
  | cancelVaultDeposit => exact cancelDeposit_wrote h
  | claimTokensEthereum =>
    simp only [Instruction.handler, Escrow.claimTokensEthereum, bind_eq_ok] at h
    obtain ⟨_, hcheck, h⟩ := h
    exact claim_wrote hcheck (transferThenClose_closed h)
  | claimTokensArweaveAttested =>
    simp only [Instruction.handler, claimTokensArweaveAttested, bind_eq_ok] at h
    obtain ⟨_, hcheck, h⟩ := h
    exact claim_wrote hcheck (transferThenClose_closed h)
  | claimVaultEthereum =>
    simp only [Instruction.handler, claimVaultEthereum, bind_eq_ok] at h
    obtain ⟨_, hcheck, _, -, h⟩ := h
    exact claim_wrote hcheck (settleVaultClaim_closed h)
  | claimVaultArweaveAttested =>
    simp only [Instruction.handler, claimVaultArweaveAttested, bind_eq_ok] at h
    obtain ⟨_, hcheck, _, -, h⟩ := h
    exact claim_wrote hcheck (settleVaultClaim_closed h)

end

/-! ### Escrows of assets -/

section

variable {s s' : AntState} {i : AntInstruction} {depositor asset authority : Pubkey}

/-- What a call makes of the escrow at its address. -/
inductive AntWrote (env : AntEnv) : Option EscrowAnt → Option EscrowAnt → Deed → Prop
  | deposit {x key} (nonce : x.nonce = env.sha256 key.input) :
      AntWrote env none (some x) (.deposit key)
  | rotation {x y slot} (nonce : y.nonce = env.sha256
      (u64Le slot ++ (keyBytes x.antMint).toList ++ pubkeyBytes x.depositor ++ x.nonce.toList)) :
      AntWrote env (some x) (some y) (.rotation slot)
  | claim {x assetType claimant} : AntWrote env (some x) none (.claim assetType claimant)
  | cancel {x} : AntWrote env (some x) none .cancel
  | purge {x} : AntWrote env (some x) none .purge

/-- The call writes only the escrow at its address, as its deed says. -/
def AntWroteAt (env : AntEnv) (s s' : AntState) (deed : Pubkey × Deed) : Prop :=
  ∃ o, s'.ants = Function.update s.ants deed.1 o ∧ AntWrote env (s.ants deed.1) o deed.2

lemma checkAntEscrow_ok {escrow : EscrowAnt} : checkAntEscrow env a s = .ok escrow ↔
    s.ants a = some escrow ∧ a = env.antPda escrow.antMint := by
  simp only [checkAntEscrow, bind_eq_ok, okOr_eq_ok, require_eq_ok, exists_const, pure_eq_ok]
  constructor
  · rintro ⟨x, hx, hseed, rfl⟩
    exact ⟨hx, hseed⟩
  · rintro ⟨hx, hseed⟩
    exact ⟨escrow, hx, hseed, rfl⟩

lemma callAssets_ants {call : AssetCall} {signers : List Pubkey}
    (h : callAssets env call signers s = .ok s') : s'.ants = s.ants := by
  simp only [callAssets, bind_eq_ok, okOr_eq_ok, pure_eq_ok] at h
  obtain ⟨_, -, rfl⟩ := h
  rfl

lemma releaseAnt_closed {payer newOwner : Pubkey}
    (h : releaseAnt env a payer asset newOwner s = .ok s') :
    s'.ants = Function.update s.ants a none := by
  simp only [releaseAnt, transferAsset, setUpdateAuthority, bind_eq_ok, pure_eq_ok] at h
  obtain ⟨s₁, h₁, s₂, h₂, rfl⟩ := h
  rw [AntState.setAnt, callAssets_ants h₂, callAssets_ants h₁]

lemma claimAnt_wrote {protocol : ℕ} {verify : EscrowAnt → List UInt8 → Except EscrowError Unit}
    {accounts : AntClaimAccounts} {messageNonce : Bytes32} {label : String}
    (h : claimAnt env protocol verify accounts messageNonce s = .ok s') :
    AntWroteAt env s s' (accounts.escrow, .claim label accounts.claimant) := by
  simp only [claimAnt, bind_eq_ok, checkAntEscrow_ok, require_eq_ok, exists_const] at h
  obtain ⟨_, ⟨hlive, -⟩, -, -, -, -, -, _, -, h⟩ := h
  refine ⟨none, releaseAnt_closed h, ?_⟩
  rw [hlive]
  exact .claim

lemma ant_handler_wrote (h : i.handler env tx s = .ok s') : AntWroteAt env s s' (i.deed tx) := by
  cases i with
  | depositAnt accounts =>
    simp only [AntInstruction.handler, Escrow.depositAnt, transferAsset, setUpdateAuthority,
      bind_eq_ok, require_eq_ok, exists_const, pure_eq_ok] at h
    obtain ⟨-, hvacant, _, -, _, -, -, s₁, h₁, s₂, h₂, rfl⟩ := h
    refine ⟨_, by rw [AntState.setAnt, callAssets_ants h₂, callAssets_ants h₁]; rfl, ?_⟩
    rw [AntInstruction.deed, Option.isNone_iff_eq_none.mp hvacant]
    exact .deposit rfl
  | updateRecipient escrow =>
    simp only [AntInstruction.handler, updateAntRecipient, bind_eq_ok, checkAntEscrow_ok,
      require_eq_ok, exists_const, pure_eq_ok] at h
    obtain ⟨_, ⟨hlive, -⟩, -, _, -, rfl⟩ := h
    refine ⟨_, rfl, ?_⟩
    rw [AntInstruction.deed, hlive]
    exact .rotation rfl
  | cancelDeposit accounts =>
    simp only [AntInstruction.handler, cancelAntDeposit, bind_eq_ok, checkAntEscrow_ok,
      require_eq_ok, exists_const] at h
    obtain ⟨_, ⟨hlive, -⟩, -, -, -, h⟩ := h
    refine ⟨none, releaseAnt_closed h, ?_⟩
    rw [AntInstruction.deed, hlive]
    exact .cancel
  | claimAntEthereum =>
    rw [AntInstruction.handler, Escrow.claimAntEthereum] at h
    exact claimAnt_wrote h
  | claimAntArweaveAttested =>
    rw [AntInstruction.handler, Escrow.claimAntArweaveAttested] at h
    exact claimAnt_wrote h
  | adminPurgeUnclaimedAnt escrow =>
    simp only [AntInstruction.handler, Escrow.adminPurgeUnclaimedAnt, burnAsset, bind_eq_ok,
      checkAntEscrow_ok, require_eq_ok, exists_const, pure_eq_ok] at h
    obtain ⟨_, ⟨hlive, -⟩, -, -, -, -, s₁, h₁, rfl⟩ := h
    refine ⟨none, by rw [AntState.setAnt, callAssets_ants h₁]; rfl, ?_⟩
    rw [AntInstruction.deed, hlive]
    exact .purge

end

/-! ### One step -/

/-- What a step makes of the nonce at an address. -/
inductive Happens (env : AntEnv) (w w' : World) (p : Place) : Option Deed → Prop
  | nothing (kept : w'.nonceAt p = w.nonceAt p) : Happens env w w' p none
  | deposit (key : DepositKey) (vacant : w.nonceAt p = none)
      (opened : w'.nonceAt p = some (env.sha256 key.input)) :
      Happens env w w' p (some (.deposit key))
  | rotation (slot : ℕ) (input : List UInt8) (held : (w.nonceAt p).isSome)
      (rotated : w.rotatedInput p slot = some input)
      (next : w'.nonceAt p = some (env.sha256 input)) : Happens env w w' p (some (.rotation slot))
  | claim (assetType : String) (claimant : Pubkey) (held : (w.nonceAt p).isSome)
      (closed : w'.nonceAt p = none) : Happens env w w' p (some (.claim assetType claimant))
  | cancel (closed : w'.nonceAt p = none) : Happens env w w' p (some .cancel)
  | purge (closed : w'.nonceAt p = none) : Happens env w w' p (some .purge)

lemma WroteAt.happens {s' : State} {deed : Pubkey × Deed}
    (h : WroteAt env.toEnv w.tokenSide s' deed) :
    Happens env w { w with tokenSide := s' } (.token a)
      (if deed.1 = a then some deed.2 else none) := by
  obtain ⟨address, d⟩ := deed
  obtain ⟨o, hupd, hwrote⟩ := h
  simp only at hupd hwrote ⊢
  split
  · rename_i heq
    subst heq
    have hafter : ({ w with tokenSide := s' } : World).nonceAt (.token address)
        = o.map (·.nonce) := by
      rw [World.nonceAt, hupd, Function.update_self]
    generalize hbefore : w.tokenSide.escrows address = before at hwrote
    cases hwrote with
    | deposit hn =>
      exact .deposit _ (by rw [World.nonceAt, hbefore]; rfl)
        (by rw [hafter, ← hn]; rfl)
    | rotation hn =>
      exact .rotation _ _ (by rw [World.nonceAt, hbefore]; rfl)
        (by rw [World.rotatedInput, hbefore]; rfl) (by rw [hafter, ← hn]; rfl)
    | claim => exact .claim _ _ (by rw [World.nonceAt, hbefore]; rfl) hafter
    | cancel => exact .cancel hafter
  · rename_i hne
    refine .nothing ?_
    rw [World.nonceAt, hupd, Function.update_of_ne (Ne.symm hne), World.nonceAt]

lemma AntWroteAt.happens {s' : AntState} {deed : Pubkey × Deed}
    (h : AntWroteAt env w.antSide s' deed) :
    Happens env w { w with antSide := s' } (.ant a)
      (if deed.1 = a then some deed.2 else none) := by
  obtain ⟨address, d⟩ := deed
  obtain ⟨o, hupd, hwrote⟩ := h
  simp only at hupd hwrote ⊢
  split
  · rename_i heq
    subst heq
    have hafter : ({ w with antSide := s' } : World).nonceAt (.ant address)
        = o.map (·.nonce) := by
      rw [World.nonceAt, hupd, Function.update_self]
    generalize hbefore : w.antSide.ants address = before at hwrote
    cases hwrote with
    | deposit hn =>
      exact .deposit _ (by rw [World.nonceAt, hbefore]; rfl)
        (by rw [hafter, ← hn]; rfl)
    | rotation hn =>
      exact .rotation _ _ (by rw [World.nonceAt, hbefore]; rfl)
        (by rw [World.rotatedInput, hbefore]; rfl) (by rw [hafter, ← hn]; rfl)
    | claim => exact .claim _ _ (by rw [World.nonceAt, hbefore]; rfl) hafter
    | cancel => exact .cancel hafter
    | purge => exact .purge hafter
  · rename_i hne
    refine .nothing ?_
    rw [World.nonceAt, hupd, Function.update_of_ne (Ne.symm hne), World.nonceAt]

lemma exec_escrows_of_no_call {s s' : State} {env : Env} {action : Action}
    (h : Event.exec env s ⟨tx, action⟩ = .ok s') (hcall : ∀ i, action ≠ .call i) :
    s'.escrows = s.escrows := by
  cases action with
  | call i => exact absurd rfl (hcall i)
  | walletTransfer =>
    simp only [Event.exec, bind_eq_ok, require_eq_ok, exists_const] at h
    exact splTransfer_escrows h.2
  | walletClose =>
    simp only [Event.exec, bind_eq_ok, require_eq_ok, exists_const] at h
    exact (splCloseAccount_moves h.2).1
  | openTokenAccount =>
    simp only [Event.exec, bind_eq_ok, require_eq_ok, exists_const, pure_eq_ok] at h
    rw [← h.2]
  | coreChange =>
    obtain rfl := Except.ok.inj h
    rfl

lemma exec_ants_of_no_call {s s' : AntState} {action : AntAction}
    (h : action.exec env tx s = .ok s') (hcall : ∀ i, action ≠ .call i) :
    s'.ants = s.ants := by
  cases action with
  | call i => exact absurd rfl (hcall i)
  | callAssets =>
    simp only [AntAction.exec, bind_eq_ok, require_eq_ok, exists_const] at h
    exact callAssets_ants h.2
  | setConfigAuthority =>
    obtain rfl := Except.ok.inj h
    rfl

lemma deedAt_token_of_no_call {action : Action} (hcall : ∀ i, action ≠ .call i) (p : Place) :
    (WorldEvent.token ⟨tx, action⟩).deedAt p = none := by
  cases action with
  | call i => exact absurd rfl (hcall i)
  | _ => cases p <;> rfl

lemma deedAt_ant_of_no_call {action : AntAction} (hcall : ∀ i, action ≠ .call i) (p : Place) :
    (WorldEvent.ant tx action).deedAt p = none := by
  cases action with
  | call i => exact absurd rfl (hcall i)
  | _ => cases p <;> rfl

lemma deedAt_token_ant (event : Event) : (WorldEvent.token event).deedAt (.ant a) = none := by
  obtain ⟨tx, action⟩ := event
  cases action <;> rfl

lemma deedAt_ant_token (action : AntAction) :
    (WorldEvent.ant tx action).deedAt (.token a) = none := by
  cases action <;> rfl

/-- **One step at one address.** -/
theorem step_happens (h : WorldStep env w e w') (p : Place) :
    Happens env w w' p (e.deedAt p) := by
  cases e with
  | token event =>
    obtain ⟨tx, action⟩ := event
    simp only [WorldStep, WorldEvent.exec, bind_eq_ok, pure_eq_ok] at h
    obtain ⟨s', h, rfl⟩ := h
    cases p with
    | ant a =>
      rw [deedAt_token_ant]
      exact .nothing rfl
    | token a =>
      by_cases hcall : ∃ i, action = .call i
      · obtain ⟨i, rfl⟩ := hcall
        simp only [Event.exec, Instruction.exec, bind_eq_ok, require_eq_ok, exists_const] at h
        exact (handler_wrote h.2).happens
      · have hcall' : ∀ i, action ≠ .call i := fun i hi => hcall ⟨i, hi⟩
        rw [deedAt_token_of_no_call hcall']
        refine .nothing ?_
        rw [World.nonceAt, exec_escrows_of_no_call h hcall', World.nonceAt]
  | ant tx action =>
    simp only [WorldStep, WorldEvent.exec, bind_eq_ok, pure_eq_ok] at h
    obtain ⟨s', h, rfl⟩ := h
    cases p with
    | token a =>
      rw [deedAt_ant_token]
      exact .nothing rfl
    | ant a =>
      by_cases hcall : ∃ i, action = .call i
      · obtain ⟨i, rfl⟩ := hcall
        simp only [AntAction.exec, AntInstruction.exec, bind_eq_ok, require_eq_ok,
          exists_const] at h
        exact (ant_handler_wrote h.2).happens
      · have hcall' : ∀ i, action ≠ .call i := fun i hi => hcall ⟨i, hi⟩
        rw [deedAt_ant_of_no_call hcall']
        refine .nothing ?_
        rw [World.nonceAt, exec_ants_of_no_call h hcall', World.nonceAt]

end Escrow
end ArioSolana
