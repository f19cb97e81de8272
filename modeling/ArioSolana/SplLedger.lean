import ArioSolana.Solana

/-!
# Token accounts with their authorities

Besides its owner a token account can have a delegate, who may spend up to an amount, and a close
authority, who closes it in place of the owner. Handing the account to another owner clears the
delegate and keeps the close authority. A call of the token program by somebody who is not the owner
takes nothing out of an account without a delegate.
-/

namespace ArioSolana
namespace Solana

open Checked Finset

structure SplAccount where
  mint : Pubkey
  owner : Pubkey
  amount : ℕ
  delegate : Option Pubkey
  delegatedAmount : ℕ
  closeAuthority : Option Pubkey
deriving DecidableEq

/-- The token accounts by their addresses. -/
abbrev Ledger := Pubkey → Option SplAccount

/-- What an authority leaves of an account's allowance. -/
def SplAccount.spend (a : SplAccount) (authority : Pubkey) (amount : ℕ) :
    Except SplError SplAccount :=
  if a.delegate = some authority then do
    require (amount ≤ a.delegatedAmount) .insufficientFunds
    return { a with
      delegatedAmount := a.delegatedAmount - amount
      delegate := if a.delegatedAmount = amount then none else a.delegate }
  else do
    require (authority = a.owner) .ownerMismatch
    return a

/-- Who closes an account. -/
def SplAccount.closer (a : SplAccount) : Pubkey := a.closeAuthority.getD a.owner

namespace Ledger

def balance (t : Ledger) (k : Pubkey) : ℕ := (t k).elim 0 (·.amount)

/-- The sum of a measure over all accounts. -/
def total (t : Ledger) (w : Option SplAccount → ℤ) : ℤ := ∑ k, w (t k)

/-- What an account counts for in a mint. -/
def worth (mint : Pubkey) (o : Option SplAccount) : ℤ :=
  o.elim 0 fun a => if a.mint = mint then (a.amount : ℤ) else 0

/-- What an account counts for in an owner's tokens of a mint. -/
def worthTo (mint owner : Pubkey) (o : Option SplAccount) : ℤ :=
  o.elim 0 fun a => if a.mint = mint ∧ a.owner = owner then (a.amount : ℤ) else 0

/-- All tokens of a mint. -/
def supply (t : Ledger) (mint : Pubkey) : ℤ := t.total (worth mint)

/-- All that an owner has of a mint. -/
def holdings (t : Ledger) (mint owner : Pubkey) : ℤ := t.total (worthTo mint owner)

/-- Debit one account and credit another. -/
def move (t : Ledger) (source destination : Pubkey) (src dst : SplAccount) (amount : ℕ) :
    Except SplError Ledger := do
  require (dst.amount + amount < 2 ^ 64) .overflow
  return Function.update
    (Function.update t source (some { src with amount := src.amount - amount }))
    destination (some { dst with amount := dst.amount + amount })

/-- The token program's `Transfer`. A transfer of an account to itself moves nothing. -/
def transfer (t : Ledger) (source destination authority : Pubkey) (amount : ℕ) :
    Except SplError Ledger := do
  let src ← okOr (t source) .accountNotFound
  let dst ← okOr (t destination) .accountNotFound
  require (amount ≤ src.amount) .insufficientFunds
  require (src.mint = dst.mint) .mintMismatch
  let spent ← src.spend authority amount
  if source = destination then return t else t.move source destination spent dst amount

/-- The token program's `CloseAccount`. An account that holds tokens cannot be closed. -/
def closeAccount (t : Ledger) (k authority : Pubkey) : Except SplError Ledger := do
  let a ← okOr (t k) .accountNotFound
  require (a.amount = 0) .nonEmptyAccount
  require (authority = a.closer) .ownerMismatch
  return Function.update t k none

def initializeAccount (t : Ledger) (k mint owner : Pubkey) : Except SplError Ledger := do
  require ((t k).isNone) .accountNotFound
  return Function.update t k (some ⟨mint, owner, 0, none, 0, none⟩)

def approve (t : Ledger) (k delegate authority : Pubkey) (amount : ℕ) :
    Except SplError Ledger := do
  let a ← okOr (t k) .accountNotFound
  require (authority = a.owner) .ownerMismatch
  return Function.update t k (some { a with delegate := some delegate, delegatedAmount := amount })

def revoke (t : Ledger) (k authority : Pubkey) : Except SplError Ledger := do
  let a ← okOr (t k) .accountNotFound
  require (authority = a.owner) .ownerMismatch
  return Function.update t k (some { a with delegate := none, delegatedAmount := 0 })

/-- The token program's `SetAuthority` for the owner. -/
def setOwner (t : Ledger) (k newOwner authority : Pubkey) : Except SplError Ledger := do
  let a ← okOr (t k) .accountNotFound
  require (authority = a.owner) .ownerMismatch
  return Function.update t k
    (some { a with owner := newOwner, delegate := none, delegatedAmount := 0 })

/-- The token program's `SetAuthority` for the close authority. -/
def setCloseAuthority (t : Ledger) (k : Pubkey) (newAuthority : Option Pubkey)
    (authority : Pubkey) : Except SplError Ledger := do
  let a ← okOr (t k) .accountNotFound
  require (authority = a.closer) .ownerMismatch
  return Function.update t k (some { a with closeAuthority := newAuthority })

end Ledger

/-- A call of the token program. -/
inductive SplCall where
  | initializeAccount (k mint owner : Pubkey)
  | transfer (source destination : Pubkey) (amount : ℕ)
  | approve (k delegate : Pubkey) (amount : ℕ)
  | revoke (k : Pubkey)
  | setOwner (k newOwner : Pubkey)
  | setCloseAuthority (k : Pubkey) (newAuthority : Option Pubkey)
  | closeAccount (k : Pubkey)

def SplCall.exec (authority : Pubkey) (t : Ledger) : SplCall → Except SplError Ledger
  | .initializeAccount k mint owner => t.initializeAccount k mint owner
  | .transfer source destination amount => t.transfer source destination authority amount
  | .approve k delegate amount => t.approve k delegate authority amount
  | .revoke k => t.revoke k authority
  | .setOwner k newOwner => t.setOwner k newOwner authority
  | .setCloseAuthority k newAuthority => t.setCloseAuthority k newAuthority authority
  | .closeAccount k => t.closeAccount k authority

namespace Ledger

section

variable {t t' : Ledger} {source destination authority k mint owner : Pubkey} {amount : ℕ}

/-! ### Transfers -/

/-- What a transfer that succeeded did. -/
structure Transferred (t t' : Ledger) (source destination authority : Pubkey) (amount : ℕ)
    (src dst : SplAccount) : Prop where
  source_eq : t source = some src
  destination_eq : t destination = some dst
  le : amount ≤ src.amount
  mint_eq : src.mint = dst.mint
  authorized : src.delegate = some authority ∨ authority = src.owner
  self : source = destination → t' = t
  credited : source ≠ destination →
    t' destination = some { dst with amount := dst.amount + amount }
  debited : source ≠ destination → ∃ d n, (src.delegate = none → d = none) ∧ t' source = some
    { src with amount := src.amount - amount, delegate := d, delegatedAmount := n }
  others : ∀ k, k ≠ source → k ≠ destination → t' k = t k

lemma spend_ok {a a' : SplAccount} (h : a.spend authority amount = .ok a') :
    (a.delegate = some authority ∨ authority = a.owner) ∧ ∃ d n, (a.delegate = none → d = none) ∧
      a' = { a with delegate := d, delegatedAmount := n } := by
  unfold SplAccount.spend at h
  split at h
  · rename_i hd
    simp only [bind_eq_ok, require_eq_ok, pure_eq_ok] at h
    obtain ⟨-, -, rfl⟩ := h
    exact ⟨.inl hd, _, _, fun hnone => absurd (hnone.symm.trans hd) (by simp), rfl⟩
  · simp only [bind_eq_ok, require_eq_ok, pure_eq_ok] at h
    obtain ⟨-, howner, rfl⟩ := h
    exact ⟨.inr howner, a.delegate, a.delegatedAmount, id, rfl⟩

/-- **A transfer moves exactly the amount**, on the word of the owner or a delegate. -/
theorem transfer_ok (h : t.transfer source destination authority amount = .ok t') :
    ∃ src dst, Transferred t t' source destination authority amount src dst := by
  simp only [transfer, bind_eq_ok, okOr_eq_ok, require_eq_ok] at h
  obtain ⟨src, hsrc, dst, hdst, -, hle, -, hmint, spent, hspend, h⟩ := h
  obtain ⟨hauth, d, n, hd, rfl⟩ := spend_ok hspend
  refine ⟨src, dst, hsrc, hdst, hle, hmint, hauth, ?_, ?_, ?_, ?_⟩
  · intro heq
    rw [if_pos heq] at h
    exact (pure_eq_ok.mp h).symm
  all_goals split at h
  · exact fun hne => absurd ‹_› hne
  · simp only [move, bind_eq_ok, pure_eq_ok] at h
    obtain ⟨-, -, rfl⟩ := h
    exact fun _ => Function.update_self _ _ _
  · exact fun hne => absurd ‹_› hne
  · simp only [move, bind_eq_ok, pure_eq_ok] at h
    obtain ⟨-, -, rfl⟩ := h
    exact fun hne => ⟨d, n, hd, by rw [Function.update_of_ne hne, Function.update_self]⟩
  · rw [← pure_eq_ok.mp h]
    exact fun _ _ _ => rfl
  · simp only [move, bind_eq_ok, pure_eq_ok] at h
    obtain ⟨-, -, rfl⟩ := h
    exact fun k hks hkd => by rw [Function.update_of_ne hkd, Function.update_of_ne hks]

/-- A transfer by the owner whose parties and amount are in order succeeds. -/
theorem transfer_succeeds {src dst : SplAccount} (hsrc : t source = some src)
    (hdst : t destination = some dst) (hle : amount ≤ src.amount) (hmint : src.mint = dst.mint)
    (hdelegate : src.delegate = none) (hfit : dst.amount + amount < 2 ^ 64) :
    ∃ t', t.transfer source destination src.owner amount = .ok t' := by
  have hspend : src.spend src.owner amount = .ok src := by
    rw [SplAccount.spend, if_neg (by simp [hdelegate]), require_of rfl]
    rfl
  simp only [transfer, hsrc, hdst, okOr_some, ok_bind, require_of hle, require_of hmint, hspend]
  split
  · exact ⟨_, rfl⟩
  · rw [move, require_of hfit]
    exact ⟨_, rfl⟩

lemma closeAccount_eq_ok : t.closeAccount k authority = .ok t' ↔
    ∃ a, t k = some a ∧ a.amount = 0 ∧ authority = a.closer ∧ t' = Function.update t k none := by
  simp only [closeAccount, bind_eq_ok, okOr_eq_ok, require_eq_ok, pure_eq_ok]
  constructor
  · rintro ⟨a, ha, -, hzero, -, hauth, rfl⟩
    exact ⟨a, ha, hzero, hauth, rfl⟩
  · rintro ⟨a, ha, hzero, hauth, rfl⟩
    exact ⟨a, ha, (), hzero, (), hauth, rfl⟩

/-! ### Without the authorities -/

/-- The token accounts without their authorities, and a log of transfers. -/
def view (t : Ledger) (log : List SplTransfer) : Tokens where
  accounts k := (t k).map fun a => ⟨a.mint, a.owner, a.amount⟩
  transfers := log

lemma view_update (log : List SplTransfer) (o : Option SplAccount) :
    (view (Function.update t k o) log).accounts
      = Function.update (t.view log).accounts k (o.map fun a => ⟨a.mint, a.owner, a.amount⟩) := by
  funext j
  by_cases hj : j = k
  · subst hj
    simp only [view, Function.update_self]
  · simp only [view, Function.update_of_ne hj]

/-- A transfer by the owner does the same there. -/
theorem transfer_view (h : t.transfer source destination authority amount = .ok t')
    (howner : ∀ a, t source = some a → a.owner = authority) (log : List SplTransfer) :
    (t.view log).transfer source destination authority amount
      = .ok (t'.view (⟨source, destination, amount⟩ :: log)) := by
  simp only [transfer, bind_eq_ok, okOr_eq_ok, require_eq_ok] at h
  obtain ⟨src, hsrc, dst, hdst, -, hle, -, hmint, spent, hspend, h⟩ := h
  obtain ⟨-, d, n, -, rfl⟩ := spend_ok hspend
  have hsource : (t.view log).accounts source = some ⟨src.mint, src.owner, src.amount⟩ := by
    simp only [view, hsrc, Option.map_some]
  have hdestination : (t.view log).accounts destination
      = some ⟨dst.mint, dst.owner, dst.amount⟩ := by
    simp only [view, hdst, Option.map_some]
  rw [Tokens.transfer, hsource, okOr_some, ok_bind, hdestination, okOr_some, ok_bind,
    require_of hle, ok_bind, require_of hmint, ok_bind, require_of (howner src hsrc).symm, ok_bind]
  by_cases heq : source = destination
  · rw [if_pos heq] at h ⊢
    rw [pure_eq_ok.mp h]
    rfl
  · rw [if_neg heq] at h ⊢
    simp only [move, bind_eq_ok, require_eq_ok, pure_eq_ok] at h
    obtain ⟨-, hfits, rfl⟩ := h
    have hdebited := view_update (t := t) (k := source) log (some { src with
      amount := src.amount - amount, delegate := d, delegatedAmount := n })
    have hboth := view_update (t := Function.update t source (some { src with
      amount := src.amount - amount, delegate := d, delegatedAmount := n })) (k := destination) log
      (some { dst with amount := dst.amount + amount })
    rw [hdebited] at hboth
    rw [require_of hfits, ok_bind]
    exact congrArg (fun a => Except.ok (Tokens.mk a (⟨source, destination, amount⟩ :: log)))
      hboth.symm

/-- So does closing an account, if the authority owns it. -/
theorem closeAccount_view (h : t.closeAccount k authority = .ok t')
    (howner : ∀ a, t k = some a → a.owner = authority) (log : List SplTransfer) :
    (t.view log).closeAccount k authority = .ok (t'.view log) := by
  obtain ⟨a, ha, hzero, -, rfl⟩ := closeAccount_eq_ok.mp h
  have hview : (t.view log).accounts k = some ⟨a.mint, a.owner, a.amount⟩ := by
    simp only [view, ha, Option.map_some]
  rw [Tokens.closeAccount, hview, okOr_some, ok_bind, require_of hzero, ok_bind,
    require_of (howner a ha).symm, ok_bind]
  exact congrArg (fun a => Except.ok (Tokens.mk a log)) (view_update log none).symm

/-! ### Sums -/

lemma total_update (t : Ledger) (w : Option SplAccount → ℤ) (k : Pubkey) (o : Option SplAccount) :
    total (Function.update t k o) w = t.total w + (w o - w (t k)) := by
  have hcomp : (fun i => w (Function.update t k o i)) = Function.update (fun i => w (t i)) k
    (w o) :=
    Function.comp_update w t k o
  rw [total, hcomp, sum_update]
  rfl

lemma Transferred.eq_update {src dst : SplAccount}
    (h : Transferred t t' source destination authority amount src dst)
    (hne : source ≠ destination) :
    t' = Function.update (Function.update t source (t' source)) destination (t' destination) := by
  funext k
  by_cases hd : k = destination
  · rw [hd, Function.update_self]
  · by_cases hs : k = source
    · rw [hs, Function.update_of_ne hne, Function.update_self]
    · rw [Function.update_of_ne hd, Function.update_of_ne hs]
      exact h.others k hs hd

/-- A measure changes at the two accounts only. -/
lemma Transferred.total_eq {src dst : SplAccount}
    (h : Transferred t t' source destination authority amount src dst)
    (hne : source ≠ destination) (w : Option SplAccount → ℤ) :
    t'.total w = t.total w + (w (t' source) - w (some src)) +
        (w (t' destination) - w (some dst)) := by
  have htwo : total (Function.update (Function.update t source (t' source)) destination
      (t' destination)) w = t.total w + (w (t' source) - w (some src))
        + (w (t' destination) - w (some dst)) := by
    rw [total_update, total_update, Function.update_of_ne hne.symm, h.source_eq, h.destination_eq]
  rw [← h.eq_update hne] at htwo
  exact htwo

/-- Every account keeps its owner and its close authority. -/
def SameTerms (t t' : Ledger) : Prop :=
  ∀ k a, t k = some a → ∃ a', t' k = some a' ∧ a'.owner = a.owner ∧
    a'.closeAuthority = a.closeAuthority

lemma SameTerms.refl (t : Ledger) : t.SameTerms t := fun _ a ha => ⟨a, ha, rfl, rfl⟩

lemma Transferred.sameTerms {src dst : SplAccount}
    (h : Transferred t t' source destination authority amount src dst) : t.SameTerms t' := by
  intro k a ha
  by_cases hne : source = destination
  · rw [h.self hne]
    exact ⟨a, ha, rfl, rfl⟩
  · obtain ⟨d, n, -, hdebit⟩ := h.debited hne
    by_cases hd : k = destination
    · subst hd
      obtain rfl := Option.some.inj (h.destination_eq.symm.trans ha)
      exact ⟨_, h.credited hne, rfl, rfl⟩
    · by_cases hs : k = source
      · subst hs
        obtain rfl := Option.some.inj (h.source_eq.symm.trans ha)
        exact ⟨_, hdebit, rfl, rfl⟩
      · exact ⟨a, (h.others k hs hd).trans ha, rfl, rfl⟩

/-- **A transfer keeps the supply.** -/
theorem Transferred.supply_eq {src dst : SplAccount}
    (h : Transferred t t' source destination authority amount src dst) :
    t'.supply mint = t.supply mint := by
  by_cases hne : source = destination
  · rw [h.self hne]
  · obtain ⟨d, n, -, hdebit⟩ := h.debited hne
    have hle := h.le
    rw [supply, h.total_eq hne, h.credited hne, hdebit, supply]
    simp only [worth, Option.elim_some, h.mint_eq]
    split
    · push_cast [Nat.cast_sub hle]
      ring
    · ring

/-- What a transfer adds to an owner's tokens. -/
lemma Transferred.holdings_eq {src dst : SplAccount}
    (h : Transferred t t' source destination authority amount src dst) :
    t'.holdings mint owner = t.holdings mint owner
      + (if dst.mint = mint ∧ dst.owner = owner then (amount : ℤ) else 0)
      - (if src.mint = mint ∧ src.owner = owner then (amount : ℤ) else 0) := by
  by_cases hne : source = destination
  · have hsame : src = dst := by
      have heq := h.source_eq
      rw [hne, h.destination_eq] at heq
      exact (Option.some.inj heq).symm
    rw [h.self hne, hsame]
    ring
  · obtain ⟨d, n, -, hdebit⟩ := h.debited hne
    have hle := h.le
    rw [holdings, h.total_eq hne, h.credited hne, hdebit, holdings]
    simp only [worthTo, Option.elim_some]
    split <;> split <;> push_cast [Nat.cast_sub hle] <;> ring

lemma worth_nonneg (o : Option SplAccount) : 0 ≤ worth mint o := by
  cases o with
  | none => exact le_rfl
  | some a =>
    rw [worth, Option.elim_some]
    split
    · positivity
    · exact le_rfl

/-- Two accounts of one mint hold at most its supply together. -/
lemma amount_add_le_supply {a b : SplAccount} {k' : Pubkey} (hne : k ≠ k') (ha : t k = some a)
    (hb : t k' = some b) (hmint : a.mint = mint) (hmint' : b.mint = mint) :
    (a.amount : ℤ) + b.amount ≤ t.supply mint := by
  have hle := sum_le_univ_sum_of_nonneg (f := fun k => worth mint (t k)) (s := {k, k'})
    fun k => worth_nonneg _
  rw [sum_pair hne, ha, hb] at hle
  simpa [worth, hmint, hmint', supply, total] using hle

/-! ### Owners who sign nothing -/

/-- Accounts of owners in `P` have no delegate. -/
def Undelegated (P : Pubkey → Prop) (t : Ledger) : Prop :=
  ∀ k a, t k = some a → P a.owner → a.delegate = none

/-- What happens to the accounts of owners in `P` when none of them signs: they keep their terms and
lose nothing, and one that a stranger may close goes only when it is empty. -/
structure Untouched (P : Pubkey → Prop) (t t' : Ledger) : Prop where
  undelegated : Undelegated P t'
  kept : ∀ k a, t k = some a → P a.owner →
    (∃ a', t' k = some a' ∧ a'.mint = a.mint ∧ a'.owner = a.owner ∧ a.amount ≤ a'.amount ∧
      (P a.closer → a'.closeAuthority = a.closeAuthority)) ∨
    a.amount = 0 ∧ ¬P a.closer ∧ t' k = none
  supply : ∀ mint, t'.supply mint = t.supply mint

variable {P : Pubkey → Prop}

/-- A call that writes one account, which no owner in `P` has, or closes it. -/
lemma Untouched.ofUpdate {o : Option SplAccount} (hundelegated : Undelegated P t)
    (hnew : ∀ a, o = some a → P a.owner → a.delegate = none)
    (hold : ∀ a, t k = some a → P a.owner → (∃ a', o = some a' ∧ a'.mint = a.mint ∧
      a'.owner = a.owner ∧ a.amount ≤ a'.amount ∧
      (P a.closer → a'.closeAuthority = a.closeAuthority)) ∨
      a.amount = 0 ∧ ¬P a.closer ∧ o = none)
    (hworth : ∀ mint, worth mint o = worth mint (t k)) :
    Untouched P t (Function.update t k o) := by
  refine ⟨fun k' a ha hP => ?_, fun k' a ha hP => ?_, fun mint => ?_⟩
  · by_cases hk : k' = k
    · rw [hk, Function.update_self] at ha
      exact hnew a ha hP
    · rw [Function.update_of_ne hk] at ha
      exact hundelegated k' a ha hP
  · by_cases hk : k' = k
    · subst hk
      rw [Function.update_self]
      exact hold a ha hP
    · rw [Function.update_of_ne hk]
      exact .inl ⟨a, ha, rfl, rfl, le_rfl, fun _ => rfl⟩
  · rw [Ledger.supply, total_update, hworth, sub_self, add_zero]
    rfl

/-- **A call by a signer outside `P` leaves the accounts of `P` untouched.** -/
theorem splCall_untouched (call : SplCall) {signer : Pubkey} (hundelegated : Undelegated P t)
    (hsigner : ¬P signer) (h : call.exec signer t = .ok t') : Untouched P t t' := by
  cases call with
  | initializeAccount k mint owner =>
    simp only [SplCall.exec, initializeAccount, bind_eq_ok, require_eq_ok, pure_eq_ok,
      Option.isNone_iff_eq_none] at h
    obtain ⟨-, hnone, rfl⟩ := h
    refine .ofUpdate hundelegated ?_ ?_ ?_
    · rintro a ha -
      obtain rfl := Option.some.inj ha
      rfl
    · intro a ha
      rw [hnone] at ha
      cases ha
    · intro mint'
      rw [hnone]
      simp [worth]
  | transfer source destination amount =>
    obtain ⟨src, dst, hmoved⟩ := transfer_ok h
    by_cases hne : source = destination
    · rw [hmoved.self hne]
      exact ⟨hundelegated, fun k a ha _ => .inl ⟨a, ha, rfl, rfl, le_rfl, fun _ => rfl⟩,
        fun _ => rfl⟩
    · -- the source has a signing owner, or a delegate
      have hsrc : ¬P src.owner := by
        intro hP
        rcases hmoved.authorized with hd | howner
        · rw [hundelegated source src hmoved.source_eq hP] at hd
          cases hd
        · exact hsigner (howner ▸ hP)
      obtain ⟨d, n, -, hdebit⟩ := hmoved.debited hne
      refine ⟨fun k a ha hP => ?_, fun k a ha hP => .inl ?_, fun mint => hmoved.supply_eq⟩
      · by_cases hd : k = destination
        · rw [hd, hmoved.credited hne] at ha
          obtain rfl := Option.some.inj ha
          exact hundelegated destination dst hmoved.destination_eq hP
        · by_cases hs : k = source
          · rw [hs, hdebit] at ha
            obtain rfl := Option.some.inj ha
            exact absurd hP hsrc
          · rw [hmoved.others k hs hd] at ha
            exact hundelegated k a ha hP
      · by_cases hd : k = destination
        · subst hd
          obtain rfl := Option.some.inj (hmoved.destination_eq.symm.trans ha)
          exact ⟨_, hmoved.credited hne, rfl, rfl, Nat.le_add_right _ _, fun _ => rfl⟩
        · by_cases hs : k = source
          · subst hs
            obtain rfl := Option.some.inj (hmoved.source_eq.symm.trans ha)
            exact absurd hP hsrc
          · exact ⟨a, (hmoved.others k hs hd).trans ha, rfl, rfl, le_rfl, fun _ => rfl⟩
  | approve k delegate amount =>
    simp only [SplCall.exec, approve, bind_eq_ok, okOr_eq_ok, require_eq_ok, pure_eq_ok] at h
    obtain ⟨a, ha, -, rfl, rfl⟩ := h
    refine .ofUpdate hundelegated ?_ ?_ fun mint => by rw [ha]; rfl
    · rintro a' ha' hP
      obtain rfl := Option.some.inj ha'
      exact absurd hP hsigner
    · rintro a' ha' hP
      obtain rfl := Option.some.inj (ha.symm.trans ha')
      exact absurd hP hsigner
  | revoke k =>
    simp only [SplCall.exec, revoke, bind_eq_ok, okOr_eq_ok, require_eq_ok, pure_eq_ok] at h
    obtain ⟨a, ha, -, rfl, rfl⟩ := h
    refine .ofUpdate hundelegated ?_ ?_ fun mint => by rw [ha]; rfl
    · rintro a' ha' -
      obtain rfl := Option.some.inj ha'
      rfl
    · rintro a' ha' hP
      obtain rfl := Option.some.inj (ha.symm.trans ha')
      exact absurd hP hsigner
  | setOwner k newOwner =>
    simp only [SplCall.exec, setOwner, bind_eq_ok, okOr_eq_ok, require_eq_ok, pure_eq_ok] at h
    obtain ⟨a, ha, -, rfl, rfl⟩ := h
    refine .ofUpdate hundelegated ?_ ?_ fun mint => by rw [ha]; rfl
    · rintro a' ha' -
      obtain rfl := Option.some.inj ha'
      rfl
    · rintro a' ha' hP
      obtain rfl := Option.some.inj (ha.symm.trans ha')
      exact absurd hP hsigner
  | setCloseAuthority k newAuthority =>
    simp only [SplCall.exec, setCloseAuthority, bind_eq_ok, okOr_eq_ok, require_eq_ok,
      pure_eq_ok] at h
    obtain ⟨a, ha, -, hcloser, rfl⟩ := h
    refine .ofUpdate hundelegated ?_ ?_ fun mint => by rw [ha]; rfl
    · rintro a' ha' hP
      obtain rfl := Option.some.inj ha'
      exact hundelegated k a ha hP
    · rintro a' ha' hP
      obtain rfl := Option.some.inj (ha.symm.trans ha')
      exact .inl ⟨_, rfl, rfl, rfl, le_rfl, fun hP' => absurd (hcloser ▸ hP') hsigner⟩
  | closeAccount k =>
    obtain ⟨a, ha, hzero, hcloser, rfl⟩ := closeAccount_eq_ok.mp h
    refine .ofUpdate hundelegated (by simp) ?_ fun mint => by simp [ha, worth, hzero]
    rintro a' ha' hP
    obtain rfl := Option.some.inj (ha.symm.trans ha')
    exact .inr ⟨hzero, fun hP' => hsigner (hcloser ▸ hP'), rfl⟩

lemma worthTo_nonneg (o : Option SplAccount) : 0 ≤ worthTo mint owner o := by
  cases o with
  | none => exact le_rfl
  | some a =>
    rw [worthTo, Option.elim_some]
    split
    · positivity
    · exact le_rfl

lemma holdings_nonneg : 0 ≤ t.holdings mint owner := by
  rw [holdings, total]
  exact sum_nonneg fun k _ => worthTo_nonneg _

/-- What an owner in `P` has does not get less. -/
lemma Untouched.holdings_le (h : Untouched P t t') (howner : P owner) :
    t.holdings mint owner ≤ t'.holdings mint owner := by
  rw [holdings, holdings, total, total]
  refine sum_le_sum fun k _ => ?_
  have hnonneg : 0 ≤ worthTo mint owner (t' k) := worthTo_nonneg _
  cases ha : t k with
  | none => exact hnonneg
  | some a =>
    by_cases hthis : a.mint = mint ∧ a.owner = owner
    · rcases h.kept k a ha (hthis.2 ▸ howner) with ⟨a', ha', hmint, how, hle, -⟩ | ⟨hzero, -, hnone⟩
      · rw [ha', worthTo, worthTo, Option.elim_some, Option.elim_some, if_pos hthis, hmint, how,
          if_pos hthis]
        exact_mod_cast hle
      · rw [hnone, worthTo, worthTo, Option.elim_some, if_pos hthis, hzero]
        exact le_rfl
    · rw [worthTo, Option.elim_some, if_neg hthis]
      exact hnonneg

end

end Ledger

end Solana
end ArioSolana
