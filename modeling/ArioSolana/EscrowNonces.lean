import ArioSolana.EscrowHistory
import ArioSolana.HashChain
import ArioSolana.Borsh

/-!
# Nonces

Every deposit at an escrow address and every change of its recipient writes a new nonce, the hash
of an input that names the slot, the asset and the depositor, and in the second case the nonce
before. A claim's message names the nonce. Two deposits at one address in one slot by one
depositor get the same nonce; nothing else makes two nonces of an address equal.
-/

namespace ArioSolana
namespace Escrow

open Checked Solana HashChain

variable {env : AntEnv} {w₀ w : World} {tr : WorldTrace} {p : Place}

/-! ### What a history leaves at an address -/

/-- The nonces that the escrows at an address got, latest first. -/
def nonces (p : Place) (tr : WorldTrace) : List Bytes32 :=
  tr.filterMap fun e => match e.label.deedAt p with
    | some (.deposit _) => e.after.nonceAt p
    | some (.rotation _) => e.after.nonceAt p
    | _ => none

/-- The deposits at an address, latest first. -/
def deposits (p : Place) (tr : WorldTrace) : List DepositKey :=
  tr.filterMap fun e => match e.label.deedAt p with
    | some (.deposit key) => some key
    | _ => none

/-- The message that a step at an address was checked against, if it is a claim. -/
def acceptedAt (env : AntEnv) (p : Place) (e : Step World WorldEvent) : Option (List UInt8) :=
  match e.label.deedAt p with
  | some (.claim assetType claimant) => e.before.claimMessage env p assetType claimant
  | _ => none

/-- The messages that released the escrows at an address, latest first. -/
def messages (env : AntEnv) (p : Place) (tr : WorldTrace) : List (List UInt8) :=
  tr.filterMap (acceptedAt env p)

/-- What is hashed for the nonces of an address, latest first. -/
def nonceInputs (p : Place) (tr : WorldTrace) : List (List UInt8) :=
  tr.filterMap fun e => match e.label.deedAt p with
    | some (.deposit key) => some key.input
    | some (.rotation slot) => e.before.rotatedInput p slot
    | _ => none

/-- A signature releases at most one escrow of an address: its nonces are distinct, a claim is
accepted only if its message names the latest nonce, and no message is accepted twice. -/
structure SingleUse (env : AntEnv) (p : Place) (tr : WorldTrace) : Prop where
  distinct : (nonces p tr).Nodup
  latest : ∀ later e earlier, tr = later ++ e :: earlier → ∀ m ∈ acceptedAt env p e, ∀ n,
    Names n m → (nonces p earlier).head? = some n
  once : (messages env p tr).Nodup

/-! ### The chain of inputs -/

/-- The inputs so far form a chain, and the nonce of a live escrow is the hash of the latest. -/
structure Chained (env : AntEnv) (p : Place) (tr : WorldTrace) (w : World) : Prop where
  chain : Chain env.sha256 (fun i => i.length = 72) Extends (nonceInputs p tr)
  nonces_eq : nonces p tr = (nonceInputs p tr).map env.sha256
  starts : (nonceInputs p tr).filter (fun i => i.length = 72)
    = (deposits p tr).map DepositKey.input
  live : ∀ n, w.nonceAt p = some n → (nonces p tr).head? = some n

lemma Extends.length {n : Bytes32} {i : List UInt8} (h : Extends n i) : i.length = 104 := by
  obtain ⟨front, hlen, rfl⟩ := h
  simp [hlen]

lemma Chained.quiet {s : Step World WorldEvent} (h : Chained env p tr s.before)
    (hnonces : nonces p (s :: tr) = nonces p tr) (hdeposits : deposits p (s :: tr) = deposits p tr)
    (hinputs : nonceInputs p (s :: tr) = nonceInputs p tr)
    (hlive : ∀ n, s.after.nonceAt p = some n → s.before.nonceAt p = some n) :
    Chained env p (s :: tr) s.after where
  chain := by rw [hinputs]; exact h.chain
  nonces_eq := by rw [hinputs, hnonces]; exact h.nonces_eq
  starts := by rw [hinputs, hdeposits]; exact h.starts
  live n hn := by rw [hnonces]; exact h.live n (hlive n hn)

lemma chained_step {w' : World} {e : WorldEvent} (ih : Chained env p tr w)
    (last : WorldStep env w e w') : Chained env p (⟨w, e, w'⟩ :: tr) w' := by
  have h := step_happens last p
  generalize hdeed : e.deedAt p = deed at h
  cases h with
  | nothing kept =>
    refine ih.quiet (s := ⟨w, e, w'⟩) ?_ ?_ ?_ fun n hn => kept ▸ hn <;>
      simp only [nonces, deposits, nonceInputs, List.filterMap_cons, hdeed]
  | deposit key _ opened =>
    constructor <;> simp only [nonceInputs, nonces, deposits, List.filterMap_cons, hdeed, opened]
    · exact ih.chain.start key.input_length
    · exact congrArg _ ih.nonces_eq
    · rw [List.filter_cons_of_pos (by simpa using key.input_length), List.map_cons]
      exact congrArg _ ih.starts
    · exact fun n hn => hn
  | rotation slot input held rotated next =>
    obtain ⟨n, hn⟩ := Option.isSome_iff_exists.mp held
    obtain ⟨i, hi, hext⟩ := World.rotatedInput_extends slot hn
    obtain rfl : i = input := Option.some.inj (hi.symm.trans rotated)
    constructor <;> simp only [nonceInputs, nonces, deposits, List.filterMap_cons, hdeed, next,
      rotated]
    · -- the nonce before is the hash of the input before
      have hhead := ih.live n hn
      rw [ih.nonces_eq, List.head?_map] at hhead
      obtain ⟨q, hq, rfl⟩ := Option.map_eq_some_iff.mp hhead
      have hchain := ih.chain
      obtain ⟨l, hl⟩ : ∃ l, nonceInputs p tr = q :: l := List.head?_eq_some_iff.mp hq
      rw [nonceInputs] at hl hchain
      rw [hl] at hchain ⊢
      exact hchain.next hext
    · exact congrArg _ ih.nonces_eq
    · rw [List.filter_cons_of_neg (by simp [hext.length])]
      exact ih.starts
    · exact fun n hn => hn
  | claim _ _ _ closed =>
    refine ih.quiet (s := ⟨w, e, w'⟩) ?_ ?_ ?_ (by simp [closed]) <;>
      simp only [nonces, deposits, nonceInputs, List.filterMap_cons, hdeed]
  | cancel closed =>
    refine ih.quiet (s := ⟨w, e, w'⟩) ?_ ?_ ?_ (by simp [closed]) <;>
      simp only [nonces, deposits, nonceInputs, List.filterMap_cons, hdeed]
  | purge closed =>
    refine ih.quiet (s := ⟨w, e, w'⟩) ?_ ?_ ?_ (by simp [closed]) <;>
      simp only [nonces, deposits, nonceInputs, List.filterMap_cons, hdeed]

theorem run_chained (vacant : w₀.nonceAt p = none) (run : Run (WorldStep env) w₀ tr w) :
    Chained env p tr w := by
  induction run with
  | nil => exact ⟨.nil, rfl, rfl, fun n hn => by rw [vacant] at hn; cases hn⟩
  | cons _ last ih => exact chained_step ih last

/-! ### Distinct deposits -/

lemma u64Le_inj {m n : ℕ} (hm : m < 2 ^ 64) (hn : n < 2 ^ 64) (h : u64Le m = u64Le n) : m = n := by
  norm_num at hm hn
  exact Borsh.leBytes_inj (k := 8) (by norm_num; exact hm) (by norm_num; exact hn) h

lemma pubkeyBytes_inj {k k' : Pubkey} (h : pubkeyBytes k = pubkeyBytes k') : k = k' := by
  obtain ⟨b, hb⟩ := k
  obtain ⟨b', hb'⟩ := k'
  norm_num at hb hb'
  have hbytes : b = b' :=
    Borsh.leBytes_inj (k := 32) (by norm_num; exact hb) (by norm_num; exact hb') h
  subst hbytes
  rfl

lemma DepositKey.input_inj {key key' : DepositKey} (hslot : key.slot < 2 ^ 64)
    (hslot' : key'.slot < 2 ^ 64) (h : key.input = key'.input) : key = key' := by
  obtain ⟨slot, assetId, depositor⟩ := key
  obtain ⟨slot', assetId', depositor'⟩ := key'
  obtain ⟨hfront, hdepositor⟩ := List.append_inj' h (by simp [pubkeyBytes_length])
  obtain ⟨hs, hid⟩ := List.append_inj' hfront (by simp)
  obtain rfl := u64Le_inj hslot hslot' hs
  obtain rfl := Vector.toList_inj.mp hid
  obtain rfl := pubkeyBytes_inj hdepositor
  rfl

lemma Instruction.deed_slot {tx : Transaction} {i : Instruction} {key : DepositKey}
    (h : (i.deed tx).2 = .deposit key) : key.slot = tx.clock.slot := by
  cases i <;> cases h
  all_goals rfl

lemma AntInstruction.deed_slot {tx : Transaction} {i : AntInstruction} {key : DepositKey}
    (h : (i.deed tx).2 = .deposit key) : key.slot = tx.clock.slot := by
  cases i <;> cases h
  all_goals rfl

lemma deedAt_slot {e : WorldEvent} {key : DepositKey} (h : e.deedAt p = some (.deposit key)) :
    key.slot = e.slot := by
  unfold WorldEvent.deedAt at h
  split at h
  · split at h
    · exact Instruction.deed_slot (Option.some.inj h)
    · cases h
  · split at h
    · exact AntInstruction.deed_slot (Option.some.inj h)
    · cases h
  · cases h

lemma mem_deposits_slot {key : DepositKey} (hslots : ∀ e ∈ tr, e.label.slot < 2 ^ 64)
    (h : key ∈ deposits p tr) : key.slot < 2 ^ 64 := by
  obtain ⟨e, he, hkey⟩ := List.mem_filterMap.mp h
  split at hkey
  · rename_i key' hdeed
    obtain rfl := Option.some.inj hkey
    rw [deedAt_slot hdeed]
    exact hslots e he
  · cases hkey

lemma Chained.nodup_iff (h : Chained env p tr w)
    (hslots : ∀ e ∈ tr, e.label.slot < 2 ^ 64)
    (inj : Set.InjOn env.sha256 {i | i ∈ nonceInputs p tr}) :
    (nonces p tr).Nodup ↔ (deposits p tr).Nodup := by
  have hkeys : ((deposits p tr).map DepositKey.input).Nodup ↔ (deposits p tr).Nodup := by
    refine ⟨fun hn => hn.of_map, fun hn => hn.map_on fun x hx y hy hxy => ?_⟩
    exact DepositKey.input_inj (mem_deposits_slot hslots hx) (mem_deposits_slot hslots hy) hxy
  have hinputs : ((nonceInputs p tr).map env.sha256).Nodup ↔ (nonceInputs p tr).Nodup := by
    refine ⟨fun hn => hn.of_map, fun hn => hn.map_on fun x hx y hy hxy => inj hx hy hxy⟩
  rw [h.nonces_eq, hinputs, h.chain.nodup_iff readable_inputs inj, h.starts, hkeys]

/-! ### Messages -/

lemma acceptedAt_names {e : Step World WorldEvent} {m : List UInt8}
    (last : WorldStep env e.before e.label e.after) (h : acceptedAt env p e = some m) :
    (∃ n, e.before.nonceAt p = some n ∧ Names n m) ∧ e.after.nonceAt p = none := by
  have hap := step_happens last p
  unfold acceptedAt at h
  generalize e.label.deedAt p = deed at h hap
  cases hap with
  | claim assetType claimant held closed =>
    obtain ⟨n, hn⟩ := Option.isSome_iff_exists.mp held
    obtain ⟨m', hm', hnames⟩ := World.claimMessage_names env assetType claimant hn
    obtain rfl : m' = m := Option.some.inj (hm'.symm.trans h)
    exact ⟨⟨n, hn, hnames⟩, closed⟩
  | nothing => cases h
  | deposit => cases h
  | rotation => cases h
  | cancel => cases h
  | purge => cases h

/-- The messages so far name nonces so far, and not the one of a live escrow. -/
def Spent (env : AntEnv) (p : Place) (tr : WorldTrace) (w : World) : Prop :=
  ∀ m ∈ messages env p tr, ∃ n, Names n m ∧ n ∈ nonces p tr ∧
    ((w.nonceAt p).isSome → n ∈ (nonces p tr).tail)

lemma spent_step {w' : World} {e : WorldEvent} (chained : Chained env p tr w)
    (ih : Spent env p tr w) (last : WorldStep env w e w') :
    Spent env p (⟨w, e, w'⟩ :: tr) w' := by
  have hap := step_happens last p
  intro m hm
  rw [messages, List.filterMap_cons] at hm
  generalize hacc : acceptedAt env p ⟨w, e, w'⟩ = acc at hm
  cases acc with
  | some m' =>
    -- a claim, after which no escrow is live
    obtain ⟨⟨n, hn, hnames⟩, hclosed⟩ := acceptedAt_names last hacc
    have hnonces : nonces p (⟨w, e, w'⟩ :: tr) = nonces p tr := by
      unfold acceptedAt at hacc
      split at hacc
      · rename_i hdeed
        simp only [nonces, List.filterMap_cons, hdeed]
      · cases hacc
    rw [hnonces]
    rcases List.mem_cons.mp hm with rfl | hm
    · exact ⟨n, hnames, List.mem_of_head? (chained.live n hn), by simp [hclosed]⟩
    · obtain ⟨n', hnames', hmem, -⟩ := ih m hm
      exact ⟨n', hnames', hmem, by simp [hclosed]⟩
  | none =>
    obtain ⟨n, hnames, hmem, htail⟩ := ih m hm
    refine ⟨n, hnames, ?_⟩
    generalize hdeed : e.deedAt p = deed at hap
    cases hap with
    | nothing kept =>
      simp only [nonces, List.filterMap_cons, hdeed, kept]
      exact ⟨hmem, htail⟩
    | deposit key _ opened =>
      simp only [nonces, List.filterMap_cons, hdeed, opened, List.tail_cons]
      exact ⟨List.mem_cons_of_mem _ hmem, fun _ => hmem⟩
    | rotation slot input _ _ next =>
      simp only [nonces, List.filterMap_cons, hdeed, next, List.tail_cons]
      exact ⟨List.mem_cons_of_mem _ hmem, fun _ => hmem⟩
    | claim _ _ _ closed =>
      simp only [nonces, List.filterMap_cons, hdeed, closed]
      exact ⟨hmem, by simp⟩
    | cancel closed =>
      simp only [nonces, List.filterMap_cons, hdeed, closed]
      exact ⟨hmem, by simp⟩
    | purge closed =>
      simp only [nonces, List.filterMap_cons, hdeed, closed]
      exact ⟨hmem, by simp⟩

lemma run_spent (vacant : w₀.nonceAt p = none) (run : Run (WorldStep env) w₀ tr w) :
    Spent env p tr w := by
  induction run with
  | nil => intro m hm; cases hm
  | cons run last ih => exact spent_step (run_chained vacant run) ih last

lemma messages_nodup (vacant : w₀.nonceAt p = none) (run : Run (WorldStep env) w₀ tr w)
    (distinct : (nonces p tr).Nodup) : (messages env p tr).Nodup := by
  induction run with
  | nil => exact List.nodup_nil
  | @cons tr w e w' run last ih =>
    have hsub : (nonces p tr).Sublist (nonces p (⟨w, e, w'⟩ :: tr)) :=
      (List.sublist_cons_self _ tr).filterMap _
    have hearlier := distinct.sublist hsub
    rw [messages, List.filterMap_cons]
    generalize hacc : acceptedAt env p ⟨w, e, w'⟩ = acc
    cases acc with
    | none => exact ih hearlier
    | some m =>
      refine List.nodup_cons.mpr ⟨fun hm => ?_, ih hearlier⟩
      -- an earlier release by `m` would have spent the live nonce
      obtain ⟨⟨n, hn, hnames⟩, -⟩ := acceptedAt_names last hacc
      obtain ⟨n', hnames', -, htail⟩ := run_spent vacant run m hm
      obtain rfl := hnames.unique hnames'
      have hhead := (run_chained vacant run).live n hn
      obtain ⟨l, hl⟩ := List.head?_eq_some_iff.mp hhead
      rw [hl] at hearlier htail
      exact (List.nodup_cons.mp hearlier).1 (htail (by simp [hn]))

lemma accepted_latest (vacant : w₀.nonceAt p = none) (run : Run (WorldStep env) w₀ tr w)
    {later earlier : WorldTrace} {e : Step World WorldEvent} (htr : tr = later ++ e :: earlier)
    {m : List UInt8} (hm : m ∈ acceptedAt env p e) {n : Bytes32} (hnames : Names n m) :
    (nonces p earlier).head? = some n := by
  subst htr
  obtain ⟨w₁, run₁⟩ := run.of_append
  cases run₁ with
  | cons run₂ last =>
    obtain ⟨⟨n', hn', hnames'⟩, -⟩ := acceptedAt_names last hm
    obtain rfl := hnames.unique hnames'
    exact (run_chained vacant run₂).live n hn'

/-! ### A small world -/

namespace SmallWorld

/-- The sum of the bytes. -/
def checksum (bytes : List UInt8) : Bytes32 := Vector.replicate 32 (bytes.foldl (· + ·) 0)

/-- The owner of an asset may hand it on or burn it, and its update authority may name another. Any
other call makes the asset 8 for its first signer. -/
def assets : AssetProgram where
  exec := fun call signers assets => match call with
    | .transfer k newOwner => (assets k).bind fun a =>
        if a.owner ∈ signers then
          some (Function.update assets k (some { a with owner := newOwner })) else none
    | .setUpdateAuthority k newAuthority => (assets k).bind fun a =>
        if a.updateAuthority ∈ signers then
          some (Function.update assets k (some { a with updateAuthority := newAuthority }))
            else none
    | .burn k => (assets k).bind fun a =>
        if a.owner ∈ signers then some (Function.update assets k none) else none
    | .other data => signers.head?.bind fun k =>
        if (assets ⟨8⟩).isNone then some (Function.update assets ⟨8⟩ (some ⟨k, k, data⟩)) else none
  Plain := fun rest => rest = []

/-- A signature starts with the checksum of what it signs, and every key is the one byte 1. -/
def world : AntEnv where
  core := SmallChain.chain.core
  assetProgram := assets
  escrowPda := fun seed _ _ => SmallChain.pda seed
  isEscrowPda := SmallChain.chain.isEscrowPda
  isEscrowPda_iff := SmallChain.chain.isEscrowPda_iff
  network := ascii "localnet"
  attestorPubkey := ⟨3⟩
  ed25519ProgramId := ⟨4⟩
  sha256 := checksum
  keccak256 := checksum
  secp256k1Recover := fun digest _ signature =>
    if signature.head? = some (digest.toList.getD 0 0) then some [1] else none
  base58 := fun k => encodeHexLowercase (pubkeyBytes k)
  antPda := fun _ => ⟨5⟩
  isAntPda := fun k => k = ⟨5⟩
  isAntPda_iff := fun k => by
    simp only [decide_eq_true_eq]
    exact ⟨fun h => ⟨k, h⟩, fun ⟨_, h⟩ => h⟩

def start : World where
  tokenSide := SmallChain.start
  antSide := ⟨fun _ => none, fun _ => none, ⟨6⟩⟩

def inSlot (slot : ℕ) : Transaction := ⟨⟨slot, 1000⟩, [], 0⟩

/-- Wallet 21 puts 5 tokens into an escrow for the holder of the key 1. -/
def deposit (slot : ℕ) : List WorldEvent :=
  [.token ⟨inSlot slot, .openTokenAccount ⟨41⟩ ⟨10⟩ ⟨1⟩⟩,
    .token ⟨inSlot slot, .call (.depositTokens ⟨⟨1⟩, ⟨31⟩, ⟨41⟩, ⟨10⟩, ⟨21⟩⟩
      (Vector.replicate 32 0) 5 1 (List.replicate 20 1))⟩]

/-- Anybody hands in the signature `b` for the claimant 22. -/
def claim (slot : ℕ) (nonce : Bytes32) (b : UInt8) : WorldEvent :=
  .token ⟨inSlot slot, .call (.claimTokensEthereum ⟨⟨1⟩, ⟨41⟩, ⟨32⟩, ⟨22⟩, ⟨21⟩, ⟨22⟩⟩ nonce
    ((Vector.replicate 65 0).set 0 b))⟩

/-- The escrow address of tokens. -/
def place : Place := .token ⟨1⟩

def history (events : List WorldEvent) : WorldTrace :=
  traceAll (WorldEvent.exec world) start events

/-- Whether the events succeed one after the other, in slots that never go back, and the checksum
does not collide on what is hashed. -/
def Smooth (events : List WorldEvent) : Prop :=
  (runAll (WorldEvent.exec world) start events).isOk = true ∧
    (∀ e ∈ history events, e.label.slot < 2 ^ 64) ∧
    ((history events).map (·.label.slot)).Pairwise (· ≥ ·) ∧
    ∀ i ∈ nonceInputs place (history events), ∀ j ∈ nonceInputs place (history events),
      checksum i = checksum j → i = j

instance (events : List WorldEvent) : Decidable (Smooth events) :=
  inferInstanceAs (Decidable (_ ∧ _))

structure Script where
  events : List WorldEvent
  smooth : Smooth events

/-- A deposit in slot 7, a claim, a deposit in slot 8. -/
def inTurn : Script :=
  ⟨deposit 7 ++ [claim 7 (Vector.replicate 32 28) 116] ++ deposit 8, by decide +kernel⟩

/-- Two deposits in slot 7, and after each of them a claim with the same signature. -/
def atOnce : Script :=
  ⟨deposit 7 ++ [claim 7 (Vector.replicate 32 28) 116] ++ deposit 7
    ++ [claim 7 (Vector.replicate 32 28) 116], by decide +kernel⟩

lemma Script.run (s : Script) : Run (WorldStep world) start (history s.events)
    (outcome (runAll (WorldEvent.exec world) start s.events) start) :=
  run_traceAll s.smooth.1

lemma Script.injOn (s : Script) :
    Set.InjOn world.sha256 {i | i ∈ nonceInputs place (history s.events)} :=
  fun i hi j hj h => s.smooth.2.2.2 i hi j hj h

end SmallWorld

/-- **One signature, at most one release.** If SHA-256 does not collide on what is hashed for the
nonces of an escrow address, the nonces there are distinct and no message releases twice exactly if
no two deposits there name the same slot, asset and depositor. -/
theorem nonces_single_use (vacant : w₀.nonceAt p = none) (run : Run (WorldStep env) w₀ tr w)
    (hslots : ∀ e ∈ tr, e.label.slot < 2 ^ 64)
    (inj : Set.InjOn env.sha256 {i | i ∈ nonceInputs p tr}) :
    SingleUse env p tr ↔ (deposits p tr).Nodup := by
  have hiff := (run_chained vacant run).nodup_iff hslots inj
  refine ⟨fun h => hiff.mp h.distinct, fun h => ?_⟩
  have distinct := hiff.mpr h
  exact ⟨distinct, fun _ _ _ htr _ hm _ hn => accepted_latest vacant run htr hm hn,
    messages_nodup vacant run distinct⟩

open SmallWorld in
theorem nonces_single_use_small : SingleUse world place (history inTurn.events) := by
  refine (nonces_single_use (p := place) rfl inTurn.run inTurn.smooth.2.1 inTurn.injOn).mpr ?_
  decide +kernel

open SmallWorld in
/-- Two deposits in one slot, and one signature releases both. -/
theorem signature_releases_twice : ¬ ∀ (env : AntEnv) (w₀ w : World) (tr : WorldTrace) (p : Place),
    w₀.nonceAt p = none → Run (WorldStep env) w₀ tr w →
    (∀ e ∈ tr, e.label.slot < 2 ^ 64) → (tr.map (·.label.slot)).Pairwise (· ≥ ·) →
    Set.InjOn env.sha256 {i | i ∈ nonceInputs p tr} → SingleUse env p tr := by
  intro h
  have hsingle := h world start _ (history atOnce.events) place rfl atOnce.run atOnce.smooth.2.1
    atOnce.smooth.2.2.1 atOnce.injOn
  have htwice : ¬ (messages world place (history atOnce.events)).Nodup := by decide +kernel
  exact htwice hsingle.once

end Escrow
end ArioSolana
