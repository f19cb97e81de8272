import ArioSolana.EscrowCustody
import ArioSolana.EscrowNonces

/-!
# Custody of names

An escrowed name belongs to the address of its escrow, with the update authority, as long as the
escrow is there. So every exit that somebody entitled orders goes through, and there is no other
exit. With the token side this gives the custody of the whole program, along any run. -/

namespace ArioSolana
namespace Escrow

open Checked Solana

/-! ### The asset program -/

/-- The key holds the asset with its update authority; `none` says that the asset is gone. -/
def AssetProgram.HeldBy (p : AssetProgram) (assets : Assets) (asset : Pubkey) :
    Option Pubkey → Prop
  | some holder => p.Holds assets asset holder holder
  | none => assets asset = none

/-- The asset passes to a holder, or is burnt, by calls that these keys sign. -/
def AssetProgram.Passes (p : AssetProgram) (signers : List Pubkey) (asset : Pubkey)
    (assets assets' : Assets) : Option Pubkey → Prop
  | some holder => ∃ handed, p.exec (.transfer asset holder) signers assets = some handed ∧
      p.exec (.setUpdateAuthority asset holder) signers handed = some assets'
  | none => p.exec (.burn asset) signers assets = some assets'

namespace AssetProgram

variable {p : AssetProgram} {signers : List Pubkey} {assets assets' : Assets}
  {asset k o u a : Pubkey} {holder : Option Pubkey} {call : AssetCall}

lemma Holds.some (h : p.Holds assets k o u) : (assets k).isSome := by
  obtain ⟨rest, -, hget⟩ := h
  rw [hget]
  rfl

lemma Documented.spares (hp : p.Documented) (hheld : p.Holds assets k a a) (ha : a ∉ signers)
    (h : p.exec call signers assets = some assets') : p.Holds assets' k a a := by
  obtain ⟨rest, hplain, hget⟩ := hheld
  exact ⟨rest, hplain, hp.guarded h hget hplain ha ha⟩

lemma Passes.spares (hp : p.Documented) (h : p.Passes signers asset assets assets' holder)
    (hheld : p.Holds assets k a a) (ha : a ∉ signers) : p.Holds assets' k a a := by
  cases holder with
  | some holder =>
    obtain ⟨handed, h₁, h₂⟩ := h
    exact hp.spares (hp.spares hheld ha h₁) ha h₂
  | none => exact hp.spares hheld ha h

lemma Passes.heldBy (hp : p.Documented) (h : p.Passes signers asset assets assets' holder)
    (hheld : p.Holds assets asset o u) : p.HeldBy assets' asset holder := by
  cases holder with
  | some holder =>
    obtain ⟨handed, h₁, h₂⟩ := h
    exact hp.updateAuthoritySet (hp.transferred hheld h₁) h₂
  | none => exact hp.burnt hheld h

lemma Documented.passes (hp : p.Documented) (hheld : p.Holds assets asset a a) (ha : a ∈ signers)
    (holder : Option Pubkey) : ∃ assets', p.Passes signers asset assets assets' holder := by
  cases holder with
  | some holder =>
    obtain ⟨handed, h₁⟩ := hp.transfer holder hheld ha
    obtain ⟨assets', h₂⟩ := hp.setUpdateAuthority holder (hp.transferred hheld h₁) ha
    exact ⟨assets', handed, h₁, h₂⟩
  | none => exact hp.burn hheld ha

lemma HeldBy.unique {holder' : Option Pubkey} (h : p.HeldBy assets asset holder)
    (h' : p.HeldBy assets asset holder') : holder = holder' := by
  cases holder with
  | some q =>
    obtain ⟨_, -, hget⟩ := h
    cases holder' with
    | some q' =>
      obtain ⟨_, -, hget'⟩ := h'
      rw [hget, Option.some.injEq, Asset.mk.injEq] at hget'
      rw [hget'.1]
    | none =>
      rw [show assets asset = none from h'] at hget
      cases hget
  | none =>
    cases holder' with
    | some q' =>
      obtain ⟨_, -, hget'⟩ := h'
      rw [show assets asset = none from h] at hget'
      cases hget'
    | none => rfl

end AssetProgram

/-! ### Orders -/

/-- A call that may close the escrow `x` of a name at `a`, and who holds the asset then. -/
inductive AntOrder (env : AntEnv) (tx : Transaction) (s : AntState) (a : Pubkey) (x : EscrowAnt) :
    AntInstruction → Option Pubkey → Prop
  | cancelDeposit (signs : env.CanSign x.depositor) :
      AntOrder env tx s a x (.cancelDeposit ⟨a, x.antMint, x.depositor⟩) (some x.depositor)
  | claimAntEthereum {c payer} (signs : env.CanSign payer) (signature : Vector UInt8 65)
      (protocol : x.recipientProtocol = protocolEthereum)
      (length : x.recipientPubkey.length = ethereumPubkeyLen)
      (verified : verifyPersonalSign env.toEnv (buildAntEscrowClaimMessage env.toEnv x c)
        signature.toList x.recipientPubkey = .ok ()) :
      AntOrder env tx s a x (.claimAntEthereum ⟨⟨a, x.antMint, x.depositor⟩, c, payer⟩ x.nonce
        signature) (some c)
  | claimAntArweaveAttested {c payer} (signs : env.CanSign payer)
      (protocol : x.recipientProtocol = protocolArweave)
      (verified : verifyAttestedSignature env.toEnv tx.instructions tx.current
        (buildAntEscrowClaimMessage env.toEnv x c) = .ok ()) :
      AntOrder env tx s a x (.claimAntArweaveAttested ⟨⟨a, x.antMint, x.depositor⟩, c, payer⟩
        x.nonce) (some c)
  | adminPurgeUnclaimedAnt (signs : env.CanSign s.configAuthority)
      (grace : unclaimedPurgeGraceSlots ≤ tx.clock.slot - x.depositSlot) :
      AntOrder env tx s a x (.adminPurgeUnclaimedAnt a x.antMint s.configAuthority) none

/-- Another recipient, and therefore another nonce. -/
def AntRenamed (x y : EscrowAnt) : Prop :=
  ∃ protocol pubkey nonce, y = { x with
    recipientProtocol := protocol
    recipientPubkey := pubkey
    nonce := nonce }

/-- The asset that a call puts into an escrow. -/
def AntInstruction.deposited : AntInstruction → Option Pubkey
  | .depositAnt accounts _ _ => some accounts.antAsset
  | _ => none

section

variable {env : AntEnv} {tx : Transaction} {s s' : AntState}
  {a b k payer authority newOwner : Pubkey} {x y : EscrowAnt} {i : AntInstruction}
  {holder : Option Pubkey} {action : AntAction} {signers : List Pubkey}

/-! ### One call -/

/-- What a call makes of the escrow at `a`, and of the asset of that address. Besides outside keys
only the address itself signs for the asset. -/
inductive AntOutcome (env : AntEnv) (tx : Transaction) (s s' : AntState) (i : AntInstruction)
    (a : Pubkey) : Option EscrowAnt → Prop
  | opened {x : EscrowAnt} {signers} (vacant : s.ants a = none) (address : a = env.antPda x.antMint)
      (asset : i.deposited = some x.antMint) (signed : ∀ k ∈ signers, k = a ∨ env.CanSign k)
      (passes : env.assetProgram.Passes signers x.antMint s.assets s'.assets (some a)) :
      AntOutcome env tx s s' i a (some x)
  | renamed {x y : EscrowAnt} (live : s.ants a = some x) (renamed : AntRenamed x y)
      (signer : i.signer = x.depositor) (same : s'.assets = s.assets) :
      AntOutcome env tx s s' i a (some y)
  | closed {x : EscrowAnt} {signers holder} (live : s.ants a = some x)
      (order : AntOrder env tx s a x i holder) (signed : ∀ k ∈ signers, k = a ∨ env.CanSign k)
      (passes : env.assetProgram.Passes signers x.antMint s.assets s'.assets holder) :
      AntOutcome env tx s s' i a none

/-- The call writes one escrow. -/
def AntEnds (env : AntEnv) (tx : Transaction) (s s' : AntState) (i : AntInstruction) (a : Pubkey) :
    Prop :=
  ∃ o, s'.ants = Function.update s.ants a o ∧ AntOutcome env tx s s' i a o

lemma callAssets_ok {call : AssetCall} : callAssets env call signers s = .ok s' ↔
    ∃ assets, env.assetProgram.exec call signers s.assets = some assets ∧
      s' = { s with assets := assets } := by
  simp only [callAssets, bind_eq_ok, okOr_eq_ok, pure_eq_ok]
  exact exists_congr fun _ => and_congr_right fun _ => eq_comm

lemma handOver_passes {s₁ : AntState} (h₁ : transferAsset env k payer authority newOwner s = .ok s₁)
    (h₂ : setUpdateAuthority env k payer authority newOwner s₁ = .ok s') :
    env.assetProgram.Passes [authority, payer] k s.assets s'.assets (some newOwner) ∧
      s'.ants = s.ants := by
  obtain ⟨handed, hhanded, rfl⟩ := callAssets_ok.mp h₁
  obtain ⟨assets, hassets, rfl⟩ := callAssets_ok.mp h₂
  exact ⟨⟨handed, hhanded, hassets⟩, rfl⟩

lemma releaseAnt_passes (h : releaseAnt env a payer k newOwner s = .ok s') :
    env.assetProgram.Passes [a, payer] k s.assets s'.assets (some newOwner) ∧
      s'.ants = Function.update s.ants a none := by
  simp only [releaseAnt, bind_eq_ok, pure_eq_ok] at h
  obtain ⟨s₁, h₁, s₂, h₂, rfl⟩ := h
  obtain ⟨hpasses, hants⟩ := handOver_passes h₁ h₂
  exact ⟨hpasses, by rw [AntState.setAnt, hants]⟩

lemma signed_pair (hpayer : env.CanSign payer) : ∀ k ∈ [a, payer], k = a ∨ env.CanSign k := by
  intro k hk
  rcases List.mem_pair.mp hk with rfl | rfl
  · exact .inl rfl
  · exact .inr hpayer

lemma depositAnt_ends {accounts : AntAccounts} {protocol : ℕ} {pubkey : List UInt8}
    (hsigns : env.CanSign accounts.depositor)
    (h : depositAnt env tx accounts protocol pubkey s = .ok s') :
    AntEnds env tx s s' (.depositAnt accounts protocol pubkey) accounts.escrow := by
  simp only [depositAnt, bind_eq_ok, require_eq_ok, exists_const, pure_eq_ok] at h
  obtain ⟨haddress, hvacant, _, -, _, -, -, s₁, h₁, s₂, h₂, rfl⟩ := h
  obtain ⟨hpasses, hants⟩ := handOver_passes h₁ h₂
  refine ⟨_, by rw [AntState.setAnt, hants], .opened (Option.isNone_iff_eq_none.mp hvacant) haddress
    rfl (fun k hk => ?_) hpasses⟩
  rcases List.mem_pair.mp hk with rfl | rfl
  · exact .inr hsigns
  · exact .inr hsigns

lemma updateAntRecipient_ends {depositor : Pubkey} {protocol : ℕ} {pubkey : List UInt8}
    (hsigner : i.signer = depositor)
    (h : updateAntRecipient env tx a depositor protocol pubkey s = .ok s') :
    AntEnds env tx s s' i a := by
  simp only [updateAntRecipient, bind_eq_ok, checkAntEscrow_ok, require_eq_ok, exists_const,
    pure_eq_ok] at h
  obtain ⟨x, ⟨hlive, -⟩, hdepositor, _, -, rfl⟩ := h
  exact ⟨_, rfl, .renamed hlive ⟨_, _, _, rfl⟩ (hsigner.trans hdepositor.symm) rfl⟩

lemma cancelAntDeposit_ends {accounts : AntAccounts}
    (hsigns : env.CanSign accounts.depositor) (h : cancelAntDeposit env accounts s = .ok s') :
    AntEnds env tx s s' (.cancelDeposit accounts) accounts.escrow := by
  simp only [cancelAntDeposit, bind_eq_ok, checkAntEscrow_ok, require_eq_ok, exists_const] at h
  obtain ⟨x, ⟨hlive, -⟩, hdepositor, hasset, -, h⟩ := h
  obtain ⟨escrow, antAsset, depositor⟩ := accounts
  subst hdepositor hasset
  obtain ⟨hpasses, hants⟩ := releaseAnt_passes h
  exact ⟨none, hants, .closed hlive (.cancelDeposit hsigns) (signed_pair hsigns) hpasses⟩

lemma claimAnt_ends {protocol : ℕ} {verify : EscrowAnt → List UInt8 → Except EscrowError Unit}
    {accounts : AntClaimAccounts} {messageNonce : Bytes32} (hsigns : env.CanSign accounts.payer)
    (order : ∀ x, s.ants accounts.escrow = some x → x.depositor = accounts.depositor →
      accounts.antAsset = x.antMint → x.recipientProtocol = protocol → messageNonce = x.nonce →
      verify x (buildAntEscrowClaimMessage env.toEnv x accounts.claimant) = .ok () →
      AntOrder env tx s accounts.escrow x i (some accounts.claimant))
    (h : claimAnt env protocol verify accounts messageNonce s = .ok s') :
    AntEnds env tx s s' i accounts.escrow := by
  simp only [claimAnt, bind_eq_ok, checkAntEscrow_ok, require_eq_ok, exists_const] at h
  obtain ⟨x, ⟨hlive, -⟩, hdepositor, hasset, -, hprotocol, hnonce, _, hverified, h⟩ := h
  obtain ⟨hpasses, hants⟩ := releaseAnt_passes h
  exact ⟨none, hants, .closed hlive (order x hlive hdepositor hasset hprotocol hnonce hverified)
    (signed_pair hsigns) hpasses⟩

lemma adminPurge_ends {antAsset : Pubkey} (hsigns : env.CanSign authority)
    (h : adminPurgeUnclaimedAnt env tx a antAsset authority s = .ok s') :
    AntEnds env tx s s' (.adminPurgeUnclaimedAnt a antAsset authority) a := by
  simp only [adminPurgeUnclaimedAnt, bind_eq_ok, checkAntEscrow_ok, require_eq_ok, exists_const,
    pure_eq_ok] at h
  obtain ⟨x, ⟨hlive, -⟩, rfl, rfl, -, hgrace, s₁, h₁, rfl⟩ := h
  obtain ⟨assets, hburn, rfl⟩ := callAssets_ok.mp h₁
  exact ⟨none, rfl, .closed hlive (.adminPurgeUnclaimedAnt hsigns hgrace) (signed_pair hsigns)
    hburn⟩

/-- **One call.** -/
theorem ant_call_ends (h : i.exec env tx s = .ok s') :
    env.CanSign i.signer ∧ AntEnds env tx s s' i (i.deed tx).1 := by
  simp only [AntInstruction.exec, bind_eq_ok, require_eq_ok, exists_const] at h
  obtain ⟨hsigns, h⟩ := h
  refine ⟨hsigns, ?_⟩
  cases i with
  | depositAnt => exact depositAnt_ends hsigns h
  | updateRecipient => exact updateAntRecipient_ends rfl h
  | cancelDeposit => exact cancelAntDeposit_ends hsigns h
  | claimAntEthereum accounts messageNonce signature =>
    rw [AntInstruction.handler, Escrow.claimAntEthereum] at h
    refine claimAnt_ends hsigns (fun x _ hdepositor hasset hprotocol hnonce hverified => ?_) h
    obtain ⟨⟨escrow, antAsset, depositor⟩, claimant, payer⟩ := accounts
    simp only [bind_eq_ok, require_eq_ok, exists_const] at hverified hdepositor hasset
    subst hdepositor hasset hnonce
    exact .claimAntEthereum hsigns signature hprotocol hverified.1 hverified.2
  | claimAntArweaveAttested accounts messageNonce =>
    rw [AntInstruction.handler, Escrow.claimAntArweaveAttested] at h
    refine claimAnt_ends hsigns (fun x _ hdepositor hasset hprotocol hnonce hverified => ?_) h
    obtain ⟨⟨escrow, antAsset, depositor⟩, claimant, payer⟩ := accounts
    simp only at hdepositor hasset
    subst hdepositor hasset hnonce
    exact .claimAntArweaveAttested hsigns hprotocol hverified
  | adminPurgeUnclaimedAnt => exact adminPurge_ends hsigns h

/-! ### One step -/

/-- The escrow `x` at `a` is that of its asset. -/
def Addressed (env : AntEnv) (s : AntState) : Prop :=
  ∀ a x, s.ants a = some x → a = env.antPda x.antMint

/-- The address of an escrow holds its asset. -/
def InCustody (env : AntEnv) (s : AntState) (a : Pubkey) (x : EscrowAnt) : Prop :=
  env.assetProgram.Holds s.assets x.antMint a a

lemma Addressed.not_canSign (h : Addressed env s) (hlive : s.ants a = some x) :
    ¬ env.CanSign a := by
  intro hsigns
  have hpda := (env.isAntPda_iff a).mpr ⟨x.antMint, h a x hlive⟩
  rw [hsigns.1] at hpda
  cases hpda

/-- The escrow `x` at `a` stays, and in custody if it was; only the depositor names another
recipient. -/
def AntStays (env : AntEnv) (s s' : AntState) (action : AntAction) (a : Pubkey) (x : EscrowAnt) :
    Prop :=
  ∃ y, s'.ants a = some y ∧ (InCustody env s a x → InCustody env s' a y) ∧
    (y = x ∨ AntRenamed x y ∧ ∃ i, action = .call i ∧ i.signer = x.depositor)

/-- The step is a call that closes the escrow `x` at `a` on an order, which an asset in custody
follows. -/
def AntLeaves (env : AntEnv) (tx : Transaction) (s s' : AntState) (action : AntAction) (a : Pubkey)
    (x : EscrowAnt) : Prop :=
  ∃ i holder, action = .call i ∧ s'.ants a = none ∧ AntOrder env tx s a x i holder ∧
    (InCustody env s a x → env.assetProgram.HeldBy s'.assets x.antMint holder)

lemma ant_step (hp : env.assetProgram.Documented) (hs : Addressed env s) (hlive : s.ants a = some x)
    (h : action.exec env tx s = .ok s') :
    AntStays env s s' action a x ∨ AntLeaves env tx s s' action a x := by
  have hpda := hs.not_canSign hlive
  cases action with
  | call i =>
    obtain ⟨-, o, hants, houtcome⟩ := ant_call_ends h
    by_cases ha : a = (i.deed tx).1
    · rw [← ha] at hants houtcome
      have hat : s'.ants a = o := by rw [hants, Function.update_self]
      cases houtcome with
      | opened vacant =>
        rw [vacant] at hlive
        cases hlive
      | @renamed x' y live renamed signer same =>
        obtain rfl := Option.some.inj (live.symm.trans hlive)
        refine .inl ⟨y, hat, fun hx => ?_, .inr ⟨renamed, i, rfl, signer⟩⟩
        obtain ⟨_, _, _, rfl⟩ := renamed
        rw [InCustody, same]
        exact hx
      | @closed x' signers holder live order signed passes =>
        obtain rfl := Option.some.inj (live.symm.trans hlive)
        exact .inr ⟨i, holder, rfl, hat, order, fun hx => passes.heldBy hp hx⟩
    · have hat : s'.ants a = some x := by rw [hants, Function.update_of_ne ha, hlive]
      have hnot : ∀ {signers : List Pubkey},
          (∀ k ∈ signers, k = (i.deed tx).1 ∨ env.CanSign k) → a ∉ signers := by
        intro signers hsigned hmem
        rcases hsigned a hmem with heq | hsigns
        · exact ha heq
        · exact hpda hsigns
      refine .inl ⟨x, hat, fun hx => ?_, .inl rfl⟩
      -- the calls to the asset program are signed by others
      cases houtcome with
      | opened _ _ _ signed passes => exact passes.spares hp hx (hnot signed)
      | renamed _ _ _ same =>
        rw [InCustody, same]
        exact hx
      | closed _ _ signed passes => exact passes.spares hp hx (hnot signed)
  | callAssets call signers =>
    simp only [AntAction.exec, bind_eq_ok, require_eq_ok, exists_const, List.all_eq_true,
      decide_eq_true_eq] at h
    obtain ⟨hsigns, h⟩ := h
    obtain ⟨assets, hexec, rfl⟩ := callAssets_ok.mp h
    exact .inl ⟨x, hlive, fun hx => hp.spares hx (fun hmem => hpda (hsigns a hmem)) hexec, .inl rfl⟩
  | setConfigAuthority authority =>
    obtain rfl := Except.ok.inj h
    exact .inl ⟨x, hlive, id, .inl rfl⟩

lemma AntRenamed.antMint (h : AntRenamed x y) : y.antMint = x.antMint := by
  obtain ⟨_, _, _, rfl⟩ := h
  rfl

/-- An escrow that appears was opened by a deposit, which passed the asset to its address. -/
lemma ant_opens (hvacant : s.ants a = none) (hy : s'.ants a = some y)
    (h : action.exec env tx s = .ok s') : ∃ i signers, action = .call i ∧
      a = env.antPda y.antMint ∧ i.deposited = some y.antMint ∧
      env.assetProgram.Passes signers y.antMint s.assets s'.assets (some a) := by
  by_cases hcall : ∃ i, action = .call i
  · obtain ⟨i, rfl⟩ := hcall
    obtain ⟨-, o, hants, houtcome⟩ := ant_call_ends h
    by_cases ha : a = (i.deed tx).1
    · rw [← ha] at hants houtcome
      rw [hants, Function.update_self] at hy
      subst hy
      cases houtcome with
      | @opened _ signers vacant address asset signed passes =>
        exact ⟨i, signers, rfl, address, asset, passes⟩
      | renamed live =>
        rw [hvacant] at live
        cases live
    · rw [hants, Function.update_of_ne ha, hvacant] at hy
      cases hy
  · rw [exec_ants_of_no_call h fun i hi => hcall ⟨i, hi⟩, hvacant] at hy
    cases hy

lemma ant_kept (hlive : s.ants a = some x) (hy : s'.ants a = some y)
    (h : action.exec env tx s = .ok s') : y.antMint = x.antMint := by
  by_cases hcall : ∃ i, action = .call i
  · obtain ⟨i, rfl⟩ := hcall
    obtain ⟨-, o, hants, houtcome⟩ := ant_call_ends h
    by_cases ha : a = (i.deed tx).1
    · rw [← ha] at hants houtcome
      rw [hants, Function.update_self] at hy
      subst hy
      cases houtcome with
      | opened vacant =>
        rw [vacant] at hlive
        cases hlive
      | renamed live renamed =>
        obtain rfl := Option.some.inj (live.symm.trans hlive)
        exact renamed.antMint
    · rw [hants, Function.update_of_ne ha, hlive] at hy
      rw [Option.some.inj hy]
  · rw [exec_ants_of_no_call h fun i hi => hcall ⟨i, hi⟩, hlive] at hy
    rw [Option.some.inj hy]

lemma step_addressed (hs : Addressed env s) (h : action.exec env tx s = .ok s') :
    Addressed env s' := by
  intro a y hy
  cases hbefore : s.ants a with
  | some x =>
    rw [ant_kept hbefore hy h]
    exact hs a x hbefore
  | none =>
    obtain ⟨_, _, -, haddress, -⟩ := ant_opens hbefore hy h
    exact haddress

/-- Escrows of the asset `k` have it in custody. -/
def CustodyOf (env : AntEnv) (k : Pubkey) (s : AntState) : Prop :=
  ∀ a x, s.ants a = some x → x.antMint = k → InCustody env s a x

/-- **Custody is kept**, and a plain asset that is deposited comes into it. -/
theorem step_custodyOf (hp : env.assetProgram.Documented) (hs : Addressed env s)
    (hk : CustodyOf env k s) (hplain : ∀ i, action = .call i → i.deposited = some k →
      ∃ owner updateAuthority, env.assetProgram.Holds s.assets k owner updateAuthority)
    (h : action.exec env tx s = .ok s') : CustodyOf env k s' := by
  intro a y hy hmint
  cases hbefore : s.ants a with
  | some x =>
    rcases ant_step hp hs hbefore h with ⟨y', hy', hkept, -⟩ | ⟨_, _, -, hclosed, -⟩
    · obtain rfl := Option.some.inj (hy'.symm.trans hy)
      exact hkept (hk a x hbefore ((ant_kept hbefore hy h).symm.trans hmint))
    · rw [hclosed] at hy
      cases hy
  | none =>
    obtain ⟨i, signers, hcall, -, hasset, hpasses⟩ := ant_opens hbefore hy h
    subst hmint
    obtain ⟨_, _, hholds⟩ := hplain i hcall hasset
    exact hpasses.heldBy hp hholds

/-! ### Exits go through -/

lemma releaseAnt_of_inCustody (hp : env.assetProgram.Documented) (payer newOwner : Pubkey)
    (hx : InCustody env s a x) : ∃ s',
    releaseAnt env a payer x.antMint newOwner s = .ok s' ∧ s'.ants a = none := by
  obtain ⟨assets, handed, h₁, h₂⟩ := hp.passes hx (List.mem_cons_self (l := [payer]))
    (some newOwner)
  refine ⟨({ s with assets := assets } : AntState).setAnt a none, ?_, Function.update_self ..⟩
  have ht : transferAsset env x.antMint payer a newOwner s = .ok { s with assets := handed } :=
    callAssets_ok.mpr ⟨handed, h₁, rfl⟩
  have hu : setUpdateAuthority env x.antMint payer a newOwner { s with assets := handed }
      = .ok { s with assets := assets } := callAssets_ok.mpr ⟨assets, h₂, rfl⟩
  rw [releaseAnt, ht, ok_bind, hu, ok_bind]
  rfl

lemma claimAnt_of_inCustody (hp : env.assetProgram.Documented) {protocol : ℕ} (c payer : Pubkey)
    (verify : EscrowAnt → List UInt8 → Except EscrowError Unit) (hs : Addressed env s)
    (hx : InCustody env s a x) (hlive : s.ants a = some x)
    (hprotocol : x.recipientProtocol = protocol)
    (hverified : verify x (buildAntEscrowClaimMessage env.toEnv x c) = .ok ()) :
    ∃ s', claimAnt env protocol verify ⟨⟨a, x.antMint, x.depositor⟩, c, payer⟩ x.nonce s
      = .ok s' ∧ s'.ants a = none := by
  obtain ⟨s', hs', hclosed⟩ := releaseAnt_of_inCustody hp payer c hx
  refine ⟨s', ?_, hclosed⟩
  simp only [claimAnt, bind_eq_ok, checkAntEscrow_ok, require_eq_ok, exists_const]
  exact ⟨x, ⟨hlive, hs a x hlive⟩, rfl, rfl, hx.some, hprotocol, rfl, (), hverified, hs'⟩

lemma ant_exec_of_signed (h : env.CanSign i.signer) :
    i.exec env tx s = i.handler env tx s := by
  rw [AntInstruction.exec, require_of h, ok_bind]

lemma AntOrder.executes (order : AntOrder env tx s a x i holder)
    (hp : env.assetProgram.Documented) (hs : Addressed env s) (hx : InCustody env s a x)
    (hlive : s.ants a = some x) : ∃ s', i.exec env tx s = .ok s' ∧ s'.ants a = none := by
  cases order with
  | cancelDeposit signs =>
    obtain ⟨s', hs', hclosed⟩ := releaseAnt_of_inCustody hp x.depositor x.depositor hx
    refine ⟨s', ?_, hclosed⟩
    simp only [AntInstruction.exec, AntInstruction.handler, cancelAntDeposit, bind_eq_ok,
      checkAntEscrow_ok, require_eq_ok, exists_const]
    exact ⟨signs, x, ⟨hlive, hs a x hlive⟩, rfl, rfl, hx.some, hs'⟩
  | @claimAntEthereum c payer signs signature protocol length verified =>
    obtain ⟨s', hs', hclosed⟩ := claimAnt_of_inCustody hp c payer (fun escrow message => do
      require (escrow.recipientPubkey.length = ethereumPubkeyLen) .signatureVerificationFailed
      verifyPersonalSign env.toEnv message signature.toList escrow.recipientPubkey)
      hs hx hlive protocol (by rw [require_of length, ok_bind, verified])
    exact ⟨s', (ant_exec_of_signed signs).trans hs', hclosed⟩
  | @claimAntArweaveAttested c payer signs protocol verified =>
    obtain ⟨s', hs', hclosed⟩ := claimAnt_of_inCustody hp c payer
      (fun _ message => verifyAttestedSignature env.toEnv tx.instructions tx.current message)
      hs hx hlive protocol verified
    exact ⟨s', (ant_exec_of_signed signs).trans hs', hclosed⟩
  | adminPurgeUnclaimedAnt signs grace =>
    obtain ⟨assets, hburn⟩ := hp.passes hx (List.mem_cons_self (l := [s.configAuthority])) none
    refine ⟨({ s with assets := assets } : AntState).setAnt a none,
      (ant_exec_of_signed signs).trans ?_, Function.update_self ..⟩
    simp only [AntInstruction.handler, Escrow.adminPurgeUnclaimedAnt, bind_eq_ok,
      checkAntEscrow_ok, require_eq_ok, exists_const, pure_eq_ok]
    exact ⟨x, ⟨hlive, hs a x hlive⟩, rfl, trivial, hx.some, grace, _,
      callAssets_ok.mpr ⟨assets, hburn, rfl⟩, rfl⟩

lemma AntOrder.unique {holder' : Option Pubkey} (h : AntOrder env tx s a x i holder)
    (h' : AntOrder env tx s a x i holder') : holder = holder' := by
  cases h <;> cases h' <;> rfl

end

/-! ### The whole program -/

/-- No escrow is open. -/
structure FreshWorld (w : World) : Prop where
  tokens : Fresh w.tokenSide
  ants : w.antSide.ants = fun _ => none

/-- What is true of every world that is reached. -/
structure Custody (env : AntEnv) (w : World) : Prop where
  sound : Sound env.toEnv w.tokenSide
  funded : AllFunded w.tokenSide
  addressed : Addressed env w.antSide

/-- In the run only a plain asset is put into an escrow of the asset `k`. -/
def PlainDeposits (env : AntEnv) (k : Pubkey) (tr : WorldTrace) : Prop :=
  ∀ e ∈ tr, ∀ tx i, e.label = .ant tx (.call i) → i.deposited = some k →
    ∃ owner updateAuthority,
      env.assetProgram.Holds e.before.antSide.assets k owner updateAuthority

/-- A step of one side leaves the other side as it is. On its own side every escrow is undisturbed,
or the step closes it on an order. -/
def Orderly (env : AntEnv) : Step World WorldEvent → Prop
  | ⟨w, .token e, w'⟩ => w'.antSide = w.antSide ∧ ∀ a, ¬ env.toEnv.CanSign a →
      Undisturbed w.tokenSide w'.tokenSide e a ∨ Leaves env.toEnv w.tokenSide w'.tokenSide e a
  | ⟨w, .ant tx action, w'⟩ => w'.tokenSide = w.tokenSide ∧ ∀ a x, w.antSide.ants a = some x →
      AntStays env w.antSide w'.antSide action a x ∨ AntLeaves env tx w.antSide w'.antSide
        action a x

section

variable {env : AntEnv} {tx : Transaction} {w w' w₀ : World} {tr : WorldTrace} {a k : Pubkey}
  {x : EscrowAnt} {i : AntInstruction} {e : WorldEvent}

lemma FreshWorld.custody (h : FreshWorld w) : Custody env w where
  sound := h.tokens.sound
  funded a x hx := by
    rw [h.tokens.escrows] at hx
    cases hx
  addressed a x hx := by
    rw [h.ants] at hx
    cases hx

lemma step_custody (hw : Custody env w) (h : WorldStep env w e w') : Custody env w' := by
  cases e with
  | token event =>
    simp only [WorldStep, WorldEvent.exec, bind_eq_ok, pure_eq_ok] at h
    obtain ⟨s', h, rfl⟩ := h
    exact ⟨step_sound hw.sound h, step_funded hw.sound hw.funded h, hw.addressed⟩
  | ant tx action =>
    simp only [WorldStep, WorldEvent.exec, bind_eq_ok, pure_eq_ok] at h
    obtain ⟨s', h, rfl⟩ := h
    exact ⟨hw.sound, hw.funded, step_addressed hw.addressed h⟩

lemma step_orderly (hp : env.assetProgram.Documented) (hw : Custody env w)
    (h : WorldStep env w e w') : Orderly env ⟨w, e, w'⟩ := by
  cases e with
  | token event =>
    simp only [WorldStep, WorldEvent.exec, bind_eq_ok, pure_eq_ok] at h
    obtain ⟨s', h, rfl⟩ := h
    exact ⟨rfl, fun a hpda => token_step hpda h⟩
  | ant tx action =>
    simp only [WorldStep, WorldEvent.exec, bind_eq_ok, pure_eq_ok] at h
    obtain ⟨s', h, rfl⟩ := h
    exact ⟨rfl, fun a x hlive => ant_step hp hw.addressed hlive h⟩

lemma run_custody (hfresh : FreshWorld w₀) (run : Run (WorldStep env) w₀ tr w) :
    Custody env w := by
  induction run with
  | nil => exact hfresh.custody
  | cons _ last ih => exact step_custody ih last

/-- In a run that deposits plain assets only, an escrow has its asset in custody. -/
lemma run_custodyOf (hp : env.assetProgram.Documented) (hfresh : FreshWorld w₀)
    (run : Run (WorldStep env) w₀ tr w) (hplain : PlainDeposits env k tr) :
    CustodyOf env k w.antSide := by
  induction run with
  | nil =>
    intro a x hx
    rw [hfresh.ants] at hx
    cases hx
  | @cons tr w₁ e w₂ run last ih =>
    have hbefore := ih fun e he => hplain e (List.mem_cons_of_mem _ he)
    cases e with
    | token event =>
      simp only [WorldStep, WorldEvent.exec, bind_eq_ok, pure_eq_ok] at last
      obtain ⟨s', -, rfl⟩ := last
      exact hbefore
    | ant tx action =>
      simp only [WorldStep, WorldEvent.exec, bind_eq_ok, pure_eq_ok] at last
      obtain ⟨s', h, rfl⟩ := last
      refine step_custodyOf hp (run_custody hfresh run).addressed hbefore (fun i hi hdep => ?_) h
      subst hi
      exact hplain _ List.mem_cons_self tx i rfl hdep

end

namespace SmallWorld

theorem fresh : FreshWorld start := ⟨SmallChain.fresh, rfl⟩

theorem assets_documented : assets.Documented where
  guarded := by
    intro call signers before after k a h hget _ howner hauthority
    have keep : ∀ {j : Pubkey} {v : Option Asset}, (∀ b, before j = some b → j = k → False) →
        (before j).isSome → some (Function.update before j v) = some after →
        after k = some a := by
      intro j v hne hsome heq
      obtain rfl := Option.some.inj heq
      obtain ⟨b, hb⟩ := Option.isSome_iff_exists.mp hsome
      rw [Function.update_of_ne fun hk => hne b hb hk.symm, hget]
    cases call with
    | transfer j newOwner =>
      simp only [assets, Option.bind_eq_some_iff] at h
      obtain ⟨b, hb, h⟩ := h
      split at h
      · rename_i hsigns
        refine keep (fun b' hb' hj => ?_) (by rw [hb]; rfl) h
        subst hj
        rw [hget] at hb
        obtain rfl := Option.some.inj hb
        exact howner hsigns
      · cases h
    | setUpdateAuthority j newAuthority =>
      simp only [assets, Option.bind_eq_some_iff] at h
      obtain ⟨b, hb, h⟩ := h
      split at h
      · rename_i hsigns
        refine keep (fun b' hb' hj => ?_) (by rw [hb]; rfl) h
        subst hj
        rw [hget] at hb
        obtain rfl := Option.some.inj hb
        exact hauthority hsigns
      · cases h
    | burn j =>
      simp only [assets, Option.bind_eq_some_iff] at h
      obtain ⟨b, hb, h⟩ := h
      split at h
      · rename_i hsigns
        refine keep (fun b' hb' hj => ?_) (by rw [hb]; rfl) h
        subst hj
        rw [hget] at hb
        obtain rfl := Option.some.inj hb
        exact howner hsigns
      · cases h
    | other data =>
      simp only [assets, Option.bind_eq_some_iff] at h
      obtain ⟨q, -, h⟩ := h
      split at h
      · rename_i hnone
        obtain rfl := Option.some.inj h
        have hk : k ≠ ⟨8⟩ := by
          rintro rfl
          rw [hget] at hnone
          cases hnone
        rw [Function.update_of_ne hk, hget]
      · cases h
  transfer := by
    rintro signers before k o u newOwner ⟨rest, -, hget⟩ ho
    exact ⟨_, by simp only [assets, hget, Option.bind_some, if_pos ho]; rfl⟩
  transferred := by
    rintro signers before after k o u newOwner ⟨rest, hplain, hget⟩ h
    simp only [assets, hget, Option.bind_some] at h
    split at h
    · obtain rfl := Option.some.inj h
      exact ⟨rest, hplain, Function.update_self ..⟩
    · cases h
  setUpdateAuthority := by
    rintro signers before k o u newAuthority ⟨rest, -, hget⟩ hu
    exact ⟨_, by simp only [assets, hget, Option.bind_some, if_pos hu]; rfl⟩
  updateAuthoritySet := by
    rintro signers before after k o u newAuthority ⟨rest, hplain, hget⟩ h
    simp only [assets, hget, Option.bind_some] at h
    split at h
    · obtain rfl := Option.some.inj h
      exact ⟨rest, hplain, Function.update_self ..⟩
    · cases h
  burn := by
    rintro signers before k o u ⟨rest, -, hget⟩ ho
    exact ⟨_, by simp only [assets, hget, Option.bind_some, if_pos ho]; rfl⟩
  burnt := by
    rintro signers before after k o u ⟨rest, -, hget⟩ h
    simp only [assets, hget, Option.bind_some] at h
    split at h
    · obtain rfl := Option.some.inj h
      exact Function.update_self ..
    · cases h

/-- Wallet 21 makes the plain asset 8 and puts it into an escrow for the holder of the key 1, as it
does with 5 tokens. -/
def depositName : List WorldEvent :=
  deposit 7 ++ [.ant (inSlot 7) (.callAssets (.other []) [⟨21⟩]),
    .ant (inSlot 7) (.call (.depositAnt ⟨⟨5⟩, ⟨8⟩, ⟨21⟩⟩ 1 (List.replicate 20 1)))]

/-- The world with the name and the tokens in escrow. -/
def named : World := outcome (runAll (WorldEvent.exec world) start depositName) start

lemma named_ok : (runAll (WorldEvent.exec world) start depositName).isOk = true := by
  decide +kernel

lemma run_named : Run (WorldStep world) start (history depositName) named := run_traceAll named_ok

/-- Wallet 22 claims the tokens, and wallet 21 takes the name back. -/
def emptied : List WorldEvent :=
  depositName ++ [claim 7 (Vector.replicate 32 28) 116,
    .ant (inSlot 9) (.call (.cancelDeposit ⟨⟨5⟩, ⟨8⟩, ⟨21⟩⟩))]

lemma emptied_ok : (runAll (WorldEvent.exec world) start emptied).isOk = true := by
  decide +kernel

lemma deposits_plain : ((history depositName).all fun e => match e.label with
    | .ant _ (.call (.depositAnt accounts _ _)) =>
      decide (e.before.antSide.assets accounts.antAsset = some ⟨⟨21⟩, ⟨21⟩, []⟩)
    | _ => true) = true := by
  decide +kernel

theorem plainDeposits (k : Pubkey) : PlainDeposits world k (history depositName) := by
  intro e he tx i hlabel hdep
  have hplain := List.all_eq_true.mp deposits_plain e he
  rw [hlabel] at hplain
  cases i with
  | depositAnt accounts =>
    obtain rfl := Option.some.inj hdep
    exact ⟨⟨21⟩, ⟨21⟩, [], rfl, of_decide_eq_true hplain⟩
  | _ => cases hdep

/-- The escrow of the name. -/
def nameEscrow : EscrowAnt where
  depositor := ⟨21⟩
  antMint := ⟨8⟩
  recipientProtocol := 1
  recipientPubkey := List.replicate 20 1
  nonce := deriveInitialNonce world.toEnv 7 (keyBytes ⟨8⟩) ⟨21⟩
  depositSlot := 7

theorem named_live : named.antSide.ants ⟨5⟩ = some nameEscrow := by
  unfold named
  decide +kernel

/-- The escrow of the tokens. -/
def tokenEscrow : EscrowToken where
  depositor := ⟨21⟩
  assetType := assetTypeToken
  amount := 5
  arioMint := ⟨10⟩
  assetId := Vector.replicate 32 0
  recipientProtocol := 1
  recipientPubkey := List.replicate 20 1
  nonce := Vector.replicate 32 28
  depositSlot := 7
  vaultEndTimestamp := 0
  vaultRevocable := false

theorem tokens_live : named.tokenSide.escrows ⟨1⟩ = some tokenEscrow := by
  unfold named
  decide +kernel

end SmallWorld

section

variable {env : AntEnv} {tx : Transaction} {w w₀ : World} {tr : WorldTrace} {a : Pubkey}
  {x : EscrowAnt} {i : AntInstruction}

/-- **Every escrow holds what was put into it.** In every state that is reached, an escrow of tokens
has a token account of its own address with at least its amount, and an escrowed name, if only a
plain asset is ever deposited for it, belongs to its escrow, with the update authority. -/
theorem escrow_custody (hfresh : FreshWorld w₀) (run : Run (WorldStep env) w₀ tr w) :
    (∀ a x, w.tokenSide.escrows a = some x →
      a = env.escrowPda (seedOf x.assetType) x.depositor x.assetId ∧
      ∃ k, w.tokenSide.tokens.terms k = some (x.arioMint, a) ∧
        x.amount ≤ w.tokenSide.tokens.balance k) ∧
    ∀ a x, w.antSide.ants a = some x → a = env.antPda x.antMint ∧
      (env.assetProgram.Documented → PlainDeposits env x.antMint tr →
        env.assetProgram.Holds w.antSide.assets x.antMint a a) := by
  have hw := run_custody hfresh run
  exact ⟨fun a x hx => ⟨hw.sound.located a x hx, hw.funded a x hx⟩, fun a x hx =>
    ⟨hw.addressed a x hx, fun hp hplain => run_custodyOf hp hfresh run hplain a x hx rfl⟩⟩

open SmallWorld in
theorem escrow_custody_small :
    (∃ k, named.tokenSide.tokens.terms k = some (⟨10⟩, ⟨1⟩) ∧
      5 ≤ named.tokenSide.tokens.balance k) ∧
    assets.Holds named.antSide.assets ⟨8⟩ ⟨5⟩ ⟨5⟩ := by
  obtain ⟨htokens, hnames⟩ := escrow_custody fresh run_named
  exact ⟨(htokens _ _ tokens_live).2,
    (hnames _ _ named_live).2 assets_documented (plainDeposits _)⟩

/-- **Nothing leaves an escrow without an order.** In every step of a run, whoever sends it, the
token accounts of an escrow's address lose nothing and the escrow stays, with its depositor, asset
and amount, or the step is a call that closes the escrow and pays out as the recipient signed or to
the depositor who signs. The same holds for names in custody, which the protocol's authority may
also burn after the grace time. -/
theorem exits_ordered (hp : env.assetProgram.Documented) (hfresh : FreshWorld w₀)
    (run : Run (WorldStep env) w₀ tr w) : ∀ e ∈ tr, Orderly env e := by
  intro e he
  obtain ⟨tr', run', hstep, -⟩ := run.of_mem he
  exact step_orderly hp (run_custody hfresh run') hstep

open SmallWorld in
theorem exits_ordered_small : (history emptied).length = emptied.length ∧
    ∀ e ∈ history emptied, Orderly world e :=
  ⟨by decide +kernel, exits_ordered assets_documented fresh (run_traceAll emptied_ok)⟩

/-- **Who can take an escrowed name, and when.** In every state that is reached by depositing this
name as a plain asset only, a call closes the escrow of the name and leaves the asset to `holder` if
and only if it is such an order, and no other call closes the escrow: nobody can prevent an order.
-/
theorem ant_exit_iff (hp : env.assetProgram.Documented) (hfresh : FreshWorld w₀)
    (run : Run (WorldStep env) w₀ tr w) (hlive : w.antSide.ants a = some x)
    (hplain : PlainDeposits env x.antMint tr) :
    (∀ holder, (∃ s', i.exec env tx w.antSide = .ok s' ∧ s'.ants a = none ∧
      env.assetProgram.HeldBy s'.assets x.antMint holder) ↔ AntOrder env tx w.antSide a x i
        holder) ∧
    ∀ s', i.exec env tx w.antSide = .ok s' → s'.ants a = none →
      ∃ holder, AntOrder env tx w.antSide a x i holder := by
  have haddressed := (run_custody hfresh run).addressed
  have hx := run_custodyOf hp hfresh run hplain a x hlive rfl
  have ordered : ∀ s', i.exec env tx w.antSide = .ok s' → s'.ants a = none →
      ∃ holder, AntOrder env tx w.antSide a x i holder ∧
        env.assetProgram.HeldBy s'.assets x.antMint holder := by
    intro s' h hclosed
    rcases ant_step hp haddressed hlive
      (show (AntAction.call i).exec env tx w.antSide = .ok s' from h) with
      ⟨y, hy, -⟩ | ⟨i', holder, hi, -, order, hheld⟩
    · rw [hclosed] at hy
      cases hy
    · obtain rfl := AntAction.call.inj hi
      exact ⟨holder, order, hheld hx⟩
  refine ⟨fun holder => ⟨?_, fun order => ?_⟩, fun s' h hclosed => ?_⟩
  · rintro ⟨s', h, hclosed, hheld⟩
    obtain ⟨holder', order, hheld'⟩ := ordered s' h hclosed
    exact hheld'.unique hheld ▸ order
  · obtain ⟨s', h, hclosed⟩ := order.executes hp haddressed hx hlive
    obtain ⟨holder', order', hheld⟩ := ordered s' h hclosed
    exact ⟨s', h, hclosed, order'.unique order ▸ hheld⟩
  · obtain ⟨holder, order, -⟩ := ordered s' h hclosed
    exact ⟨holder, order⟩

open SmallWorld in
theorem ant_exit_iff_small : ∃ s', (AntInstruction.cancelDeposit ⟨⟨5⟩, ⟨8⟩, ⟨21⟩⟩).exec world
    (inSlot 9) named.antSide = .ok s' ∧ s'.ants ⟨5⟩ = none ∧ assets.Holds s'.assets ⟨8⟩ ⟨21⟩
        ⟨21⟩ := by
  have hsigns : world.CanSign ⟨21⟩ := by decide
  exact ((ant_exit_iff assets_documented fresh run_named named_live (plainDeposits _)).1 _).mpr
    (.cancelDeposit hsigns)

end

end Escrow
end ArioSolana
