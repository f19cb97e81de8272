import ArioSolana.EscrowAntCustody
import ArioSolana.EscrowMessages

/-!
# One message, one escrow

A claim message names the asset, the amount and the claimant, but not the depositor, and two
depositors may use the same asset id. What tells their escrows apart is the nonce, which is the hash
of an input that names the depositor. So a signed message releases escrows of one address only, of
the whole program. -/

namespace ArioSolana
namespace Escrow

open Checked Solana

/-- The input of a nonce names the depositor behind the slot and the asset. -/
def NamesDepositor (depositor : Pubkey) (input : List UInt8) : Prop :=
  ∃ front rest, front.length = 40 ∧ input = front ++ pubkeyBytes depositor ++ rest

/-- What the steps of a run hash for nonces, at any address. -/
def hashedInputs (tr : WorldTrace) : Set (List UInt8) := {i | ∃ p, i ∈ nonceInputs p tr}

/-- The nonce of an escrow of tokens is the hash of an input that names its depositor. -/
def Rooted (env : AntEnv) (tr : WorldTrace) (x : EscrowToken) : Prop :=
  ∃ i ∈ hashedInputs tr, x.nonce = env.sha256 i ∧ NamesDepositor x.depositor i

/-- The type that a message names is the type of its escrow. -/
inductive Typed : String → EscrowToken → Prop
  | token {x : EscrowToken} (type : x.assetType = assetTypeToken) : Typed "token" x
  | vault {x : EscrowToken} (type : x.assetType = assetTypeVault) : Typed "vault" x

section

variable {env : AntEnv} {tx : Transaction} {w w' w₀ : World} {tr : WorldTrace} {a : Pubkey}
  {s s' : State} {x y : EscrowToken} {i : Instruction} {p p' : Place} {e e' : Step World WorldEvent}
  {m : List UInt8} {d d' : Pubkey} {input : List UInt8}

lemma NamesDepositor.unique (h : NamesDepositor d input) (h' : NamesDepositor d' input) :
    d = d' := by
  obtain ⟨front, rest, hlen, rfl⟩ := h
  obtain ⟨front', rest', hlen', heq⟩ := h'
  rw [List.append_assoc, List.append_assoc] at heq
  have hback := (List.append_inj heq (by omega)).2
  exact pubkeyBytes_inj (List.append_inj hback (by simp only [pubkeyBytes_length])).1

lemma DepositKey.input_names (key : DepositKey) : NamesDepositor key.depositor key.input :=
  ⟨u64Le key.slot ++ key.assetId.toList, [], by simp [u64Le_length], by
    rw [List.append_nil, DepositKey.input]⟩

lemma Rooted.mono (h : Rooted env tr x) (e : Step World WorldEvent) : Rooted env (e :: tr) x := by
  obtain ⟨i, ⟨p, hi⟩, hrest⟩ := h
  refine ⟨i, ⟨p, ?_⟩, hrest⟩
  exact ((List.sublist_cons_self e tr).filterMap _).subset hi

/-! ### New nonces -/

/-- The escrow that a call leaves at an address was there before, or has a new nonce. -/
lemma handler_nonce (h : i.handler env.toEnv tx s = .ok s') (hlive : s'.escrows a = some y) :
    s.escrows a = some y ∨ (i.deed tx).1 = a ∧
      ((∃ key, (i.deed tx).2 = .deposit key ∧ key.depositor = y.depositor ∧
          y.nonce = env.sha256 key.input) ∨
        ∃ slot x, (i.deed tx).2 = .rotation slot ∧ s.escrows a = some x ∧
          x.depositor = y.depositor ∧ y.nonce = env.sha256 (u64Le slot ++ x.assetId.toList
            ++ pubkeyBytes x.depositor ++ x.nonce.toList)) := by
  obtain ⟨o, hupd, hwrote⟩ := handler_wrote h
  by_cases ha : (i.deed tx).1 = a
  · refine .inr ⟨ha, ?_⟩
    rw [hupd, ← ha, Function.update_self] at hlive
    subst hlive
    cases i with
    | depositTokens accounts =>
      simp only [Instruction.handler, Escrow.depositTokens, bind_eq_ok, pure_eq_ok] at h
      obtain ⟨_, -, _, -, _, -, s₁, hmove, rfl⟩ := h
      have hy := congrFun hupd accounts.escrow
      rw [State.setEscrow_escrows, Function.update_self, Instruction.deed,
        Function.update_self] at hy
      obtain rfl := Option.some.inj hy
      exact .inl ⟨_, rfl, rfl, rfl⟩
    | depositVault accounts =>
      simp only [Instruction.handler, Escrow.depositVault, bind_eq_ok, pure_eq_ok] at h
      obtain ⟨_, -, _, -, _, -, _, -, _, -, _, -, s₁, hmove, _, -, rfl⟩ := h
      have hy := congrFun hupd accounts.escrow
      rw [State.setEscrow_escrows, Function.update_self, Instruction.deed,
        Function.update_self] at hy
      obtain rfl := Option.some.inj hy
      exact .inl ⟨_, rfl, rfl, rfl⟩
    | updateTokenRecipient escrow | updateVaultRecipient escrow =>
      change Wrote env.toEnv (s.escrows escrow) (some y) _ at hwrote
      generalize hbefore : s.escrows escrow = before at hwrote
      cases hwrote with
      | @rotation x _ slot hnonce =>
        obtain rfl : escrow = a := ha
        obtain ⟨y', hy', ⟨_, _, _, hsame⟩, -⟩ := updateRecipient_renames h hbefore
        rw [hupd, Instruction.deed, Function.update_self] at hy'
        obtain rfl := Option.some.inj hy'
        exact .inr ⟨_, x, rfl, hbefore, by rw [hsame], hnonce⟩
    | _ =>
      generalize s.escrows _ = before at hwrote
      cases hwrote
  · refine .inl ?_
    rw [hupd, Function.update_of_ne (Ne.symm ha)] at hlive
    exact hlive

/-- Every live escrow of tokens is rooted. -/
def AllRooted (env : AntEnv) (tr : WorldTrace) (w : World) : Prop :=
  ∀ a x, w.tokenSide.escrows a = some x → Rooted env tr x

lemma step_rooted {ev : WorldEvent} (ih : AllRooted env tr w) (h : WorldStep env w ev w') :
    AllRooted env (⟨w, ev, w'⟩ :: tr) w' := by
  intro a y hy
  have of_before : w.tokenSide.escrows a = some y → Rooted env (⟨w, ev, w'⟩ :: tr) y :=
    fun hbefore => (ih a y hbefore).mono _
  cases ev with
  | ant tx action =>
    simp only [WorldStep, WorldEvent.exec, bind_eq_ok, pure_eq_ok] at h
    obtain ⟨s', h, rfl⟩ := h
    exact of_before hy
  | token event =>
    obtain ⟨tx, action⟩ := event
    simp only [WorldStep, WorldEvent.exec, bind_eq_ok, pure_eq_ok] at h
    obtain ⟨s', h, rfl⟩ := h
    by_cases hcall : ∃ i, action = .call i
    · obtain ⟨i, rfl⟩ := hcall
      simp only [Event.exec, Instruction.exec, bind_eq_ok, require_eq_ok, exists_const] at h
      rcases handler_nonce h.2 hy with hbefore | ⟨ha, hnew⟩
      · exact of_before hbefore
      · have hdeed : (WorldEvent.token ⟨tx, .call i⟩).deedAt (.token a) = some (i.deed tx).2 :=
          if_pos ha
        rcases hnew with ⟨key, hkey, hdepositor, hnonce⟩ | ⟨slot, x, hslot, hx, hdepositor, hnonce⟩
        · refine ⟨key.input, ⟨.token a, ?_⟩, hnonce, hdepositor ▸ key.input_names⟩
          rw [nonceInputs, List.filterMap_cons, hdeed, hkey]
          exact List.mem_cons_self
        · refine ⟨_, ⟨.token a, ?_⟩, hnonce, u64Le slot ++ x.assetId.toList, x.nonce.toList,
            by simp [u64Le_length], by rw [hdepositor]⟩
          have hinput : w.rotatedInput (.token a) slot = some (u64Le slot ++ x.assetId.toList
              ++ pubkeyBytes x.depositor ++ x.nonce.toList) := by
            rw [World.rotatedInput, hx, Option.map_some]
          rw [nonceInputs, List.filterMap_cons, hdeed, hslot]
          simp only [hinput]
          exact List.mem_cons_self
    · rw [exec_escrows_of_no_call h fun i hi => hcall ⟨i, hi⟩] at hy
      exact of_before hy

lemma run_rooted (hfresh : FreshWorld w₀) (run : Run (WorldStep env) w₀ tr w) :
    AllRooted env tr w := by
  induction run with
  | nil =>
    intro a x hx
    rw [hfresh.tokens.escrows] at hx
    cases hx
  | cons _ last ih => exact step_rooted ih last

/-! ### Messages -/

lemma Typed.isLine {t : String} (h : Typed t x) : IsLine (ascii t) := by
  cases h <;> unfold IsLine <;> decide

lemma Typed.assetType_eq {t t' : String} (h : Typed t x) (h' : Typed t' y)
    (heq : ascii t = ascii t') : t = t' ∧ x.assetType = y.assetType := by
  have hne : ascii "token" ≠ ascii "vault" := by decide
  cases h with
  | token type =>
    cases h' with
    | token type' => exact ⟨rfl, type.trans type'.symm⟩
    | vault => exact absurd heq hne
  | vault type =>
    cases h' with
    | token => exact absurd heq.symm hne
    | vault type' => exact ⟨rfl, type.trans type'.symm⟩

/-- A claim of tokens is accepted for the message of the escrow at its address. -/
lemma accepted_token (hstep : WorldStep env e.before e.label e.after)
    (h : acceptedAt env (.token a) e = some m) :
    ∃ x t c, e.before.tokenSide.escrows a = some x ∧ Typed t x ∧
      e.label.deedAt (.token a) = some (.claim t c) ∧
      m = buildEscrowClaimMessage env.toEnv t x c := by
  unfold acceptedAt at h
  split at h
  · rename_i t c hdeed
    obtain ⟨x, hx, rfl⟩ := Option.map_eq_some_iff.mp h
    refine ⟨x, t, c, hx, ?_, hdeed, rfl⟩
    obtain ⟨before, label, after⟩ := e
    cases label with
    | ant tx action =>
      rw [deedAt_ant_token] at hdeed
      cases hdeed
    | token event =>
      obtain ⟨tx, action⟩ := event
      by_cases hcall : ∃ i, action = .call i
      · obtain ⟨i, rfl⟩ := hcall
        simp only [WorldStep, WorldEvent.exec, Event.exec, Instruction.exec, bind_eq_ok,
          require_eq_ok, exists_const, pure_eq_ok] at hstep
        obtain ⟨s', ⟨-, hrun⟩, -⟩ := hstep
        have hat : (i.deed tx).1 = a ∧ (i.deed tx).2 = .claim t c := by
          simp only [WorldEvent.deedAt] at hdeed
          split at hdeed
          · exact ⟨‹_›, Option.some.inj hdeed⟩
          · cases hdeed
        have hcloses : (i.deed tx).2.Closes := by
          rw [hat.2]
          trivial
        obtain ⟨x', k, new, hexit⟩ := handler_exit hcloses hrun
        obtain rfl : x' = x := by
          have hlive := hexit.live
          rw [hat.1] at hlive
          exact Option.some.inj (hlive.symm.trans hx)
        have hpair : i.deed tx = (a, .claim t c) := Prod.ext hat.1 hat.2
        cases hexit.released with
        | cancelled deed =>
          rw [hpair] at deed
          cases deed
        | claimed deed type =>
          rw [hpair] at deed
          cases deed
          exact .token type
        | paidOut deed type =>
          rw [hpair] at deed
          cases deed
          exact .vault type
        | relocked deed type =>
          rw [hpair] at deed
          cases deed
          exact .vault type
      · rw [deedAt_token_of_no_call fun i hi => hcall ⟨i, hi⟩] at hdeed
        cases hdeed
  · cases h

lemma AntInstruction.claim_type {j : AntInstruction} {t : String} {c : Pubkey}
    (h : (j.deed tx).2 = .claim t c) : t = "ant" := by
  cases j <;> cases h <;> rfl

/-- A claim of a name is accepted for the message of the escrow at its address. -/
lemma accepted_ant (h : acceptedAt env (.ant a) e = some m) :
    ∃ x c, e.before.antSide.ants a = some x ∧ e.label.deedAt (.ant a) = some (.claim "ant" c) ∧
      m = buildAntEscrowClaimMessage env.toEnv x c := by
  unfold acceptedAt at h
  split at h
  · rename_i t c hdeed
    obtain ⟨x, hx, rfl⟩ := Option.map_eq_some_iff.mp h
    obtain rfl : t = "ant" := by
      obtain ⟨before, label, after⟩ := e
      cases label with
      | token event =>
        rw [deedAt_token_ant] at hdeed
        cases hdeed
      | ant tx action =>
        by_cases hcall : ∃ i, action = .call i
        · obtain ⟨i, rfl⟩ := hcall
          simp only [WorldEvent.deedAt] at hdeed
          split at hdeed
          · exact AntInstruction.claim_type (Option.some.inj hdeed)
          · cases hdeed
        · rw [deedAt_ant_of_no_call fun i hi => hcall ⟨i, hi⟩] at hdeed
          cases hdeed
    exact ⟨x, c, hx, hdeed, rfl⟩
  · cases h

lemma Rooted.depositor_eq {tr' tr'' : WorldTrace} (h : Rooted env tr' x) (h' : Rooted env tr'' y)
    (hsub : hashedInputs tr' ⊆ hashedInputs tr) (hsub' : hashedInputs tr'' ⊆ hashedInputs tr)
    (inj : Set.InjOn env.sha256 (hashedInputs tr)) (hnonce : x.nonce = y.nonce) :
    x.depositor = y.depositor := by
  obtain ⟨i, hi, hx, hnames⟩ := h
  obtain ⟨i', hi', hy, hnames'⟩ := h'
  obtain rfl := inj (hsub hi) (hsub' hi') (hx.symm.trans (hnonce.trans hy))
  exact hnames.unique hnames'

lemma hashedInputs_mono {tr' : WorldTrace} (h : tr' <:+ tr) :
    hashedInputs tr' ⊆ hashedInputs tr := by
  rintro i ⟨p, hi⟩
  exact ⟨p, (h.sublist.filterMap _).subset hi⟩

lemma accepted_rooted (hfresh : FreshWorld w₀) (run : Run (WorldStep env) w₀ tr w) (he : e ∈ tr) :
    WorldStep env e.before e.label e.after ∧ Custody env e.before ∧
      ∃ tr', hashedInputs tr' ⊆ hashedInputs tr ∧ AllRooted env tr' e.before := by
  obtain ⟨tr', run', hstep, hsuffix⟩ := run.of_mem he
  refine ⟨hstep, run_custody hfresh run', tr', hashedInputs_mono ?_, run_rooted hfresh run'⟩
  exact (List.suffix_cons e tr').trans hsuffix

end

namespace SmallWorld

theorem plain : world.Plain where
  network := by decide
  base58 := fun k k' h => pubkeyBytes_inj (encodeHexLowercase_injective h)
  base58_line := fun k => isLine_hex _

lemma label_mem {ε : Type} {exec : World → WorldEvent → Except ε World} {is : List WorldEvent}
    {s : World} {e : Step World WorldEvent} (h : e ∈ traceAll exec s is) : e.label ∈ is := by
  induction is generalizing s with
  | nil => cases h
  | cons i is ih =>
    simp only [traceAll] at h
    split at h
    · rcases List.mem_append.mp h with h | h
      · exact List.mem_cons_of_mem i (ih h)
      · obtain rfl := List.mem_singleton.mp h
        exact List.mem_cons_self
    · cases h

lemma deedAt_call {p : Place} {tx : Transaction} {i : Instruction}
    (h : ((WorldEvent.token ⟨tx, .call i⟩).deedAt p).isSome) : p = .token (i.deed tx).1 := by
  cases p with
  | ant a => cases h
  | token a =>
    simp only [WorldEvent.deedAt] at h
    split at h
    · rename_i heq
      rw [heq]
    · cases h

lemma inTurn_elsewhere {p : Place} {e : WorldEvent} (he : e ∈ inTurn.events)
    (h : (e.deedAt p).isSome) : p = place := by
  simp only [inTurn, deposit, claim, List.cons_append, List.nil_append, List.mem_cons,
    List.not_mem_nil, or_false] at he
  rcases he with rfl | rfl | rfl | rfl | rfl
  · cases p <;> cases h
  · exact deedAt_call h
  · exact deedAt_call h
  · cases p <;> cases h
  · exact deedAt_call h

lemma inTurn_hashed : hashedInputs (history inTurn.events)
    ⊆ {i | i ∈ nonceInputs place (history inTurn.events)} := by
  rintro i ⟨p, hi⟩
  obtain ⟨e, he, heq⟩ := List.mem_filterMap.mp hi
  have hsome : (e.label.deedAt p).isSome := by
    cases hdeed : e.label.deedAt p with
    | some d => rfl
    | none =>
      rw [hdeed] at heq
      cases heq
  obtain rfl := inTurn_elsewhere (label_mem he) hsome
  exact hi

end SmallWorld

section

variable {env : AntEnv} {w w₀ : World} {tr : WorldTrace} {p p' : Place}
  {e e' : Step World WorldEvent} {m : List UInt8}

/-- **One message, one escrow.** If SHA-256 does not collide on what a run hashes for nonces, a
signed message is accepted at one address only of the whole program, whatever the type of the escrow
and whoever deposited, and every claim it is accepted for pays the same claimant. -/
theorem one_message_one_escrow (henv : env.Plain) (hfresh : FreshWorld w₀)
    (run : Run (WorldStep env) w₀ tr w) (inj : Set.InjOn env.sha256 (hashedInputs tr))
    (he : e ∈ tr) (he' : e' ∈ tr) (h : acceptedAt env p e = some m)
    (h' : acceptedAt env p' e' = some m) :
    p = p' ∧ e.label.deedAt p = e'.label.deedAt p' := by
  obtain ⟨hstep, hcustody, tr₁, hsub, hrooted⟩ := accepted_rooted hfresh run he
  obtain ⟨hstep', hcustody', tr₂, hsub', hrooted'⟩ := accepted_rooted hfresh run he'
  cases p with
  | token a =>
    obtain ⟨x, t, c, hx, htyped, hdeed, rfl⟩ := accepted_token hstep h
    cases p' with
    | token a' =>
      obtain ⟨x', t', c', hx', htyped', hdeed', heq⟩ := accepted_token hstep' h'
      obtain ⟨-, htype, hasset, -, hclaimant, hnonce⟩ :=
        escrowClaim_inj henv htyped.isLine htyped'.isLine heq
      obtain ⟨rfl, htypes⟩ := htyped.assetType_eq htyped' htype
      have hdepositor := (hrooted a x hx).depositor_eq (hrooted' a' x' hx') hsub hsub' inj hnonce
      -- the address is derived from the type, the depositor and the asset
      have haddress : a = a' := by
        rw [hcustody.sound.located a x hx, hcustody'.sound.located a' x' hx', htypes, hdepositor,
          hasset]
      exact ⟨by rw [haddress], by rw [hdeed, hdeed', hclaimant]⟩
    | ant a' =>
      obtain ⟨x', c', -, -, heq⟩ := accepted_ant h'
      exact absurd heq (claim_shapes_differ henv htyped.isLine)
  | ant a =>
    obtain ⟨x, c, hx, hdeed, rfl⟩ := accepted_ant h
    cases p' with
    | token a' =>
      obtain ⟨x', t', c', -, htyped', -, heq⟩ := accepted_token hstep' h'
      exact absurd heq.symm (claim_shapes_differ henv htyped'.isLine)
    | ant a' =>
      obtain ⟨x', c', hx', hdeed', heq⟩ := accepted_ant h'
      obtain ⟨-, hmint, hclaimant, -⟩ := antEscrowClaim_inj henv heq
      have haddress : a = a' := by
        rw [hcustody.addressed a x hx, hcustody'.addressed a' x' hx', hmint]
      exact ⟨by rw [haddress], by rw [hdeed, hdeed', hclaimant]⟩

open SmallWorld in
theorem one_message_one_escrow_small : ∃ m, m ∈ messages world place (history inTurn.events) ∧
    ∀ e ∈ history inTurn.events, ∀ p, acceptedAt world p e = some m → p = place := by
  have hne : messages world place (history inTurn.events) ≠ [] := by decide +kernel
  obtain ⟨m, hm⟩ := List.exists_mem_of_ne_nil _ hne
  obtain ⟨e₀, he₀, hacc⟩ := List.mem_filterMap.mp hm
  refine ⟨m, hm, fun e he p h => ?_⟩
  exact (one_message_one_escrow plain fresh inTurn.run (inTurn.injOn.mono inTurn_hashed) he he₀ h
    hacc).1

end

end Escrow
end ArioSolana
