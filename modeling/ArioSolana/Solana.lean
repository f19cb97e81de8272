import Mathlib.Algebra.BigOperators.Group.Finset.Basic
import Mathlib.Data.Fintype.Basic
import Mathlib.Data.Fintype.EquivFin
import ArioSolana.Book
import ArioSolana.Checked

/-!
# Accounts, keys and the token program

Public keys are values of 32 bytes. A token account holds an amount of one mint for one owner,
and a transfer signed by that owner moves exactly the amount asked for, or fails. The tokens of
the chain also keep the list of transfers made so far, latest first, so that properties about
every transfer can be stated.
-/

namespace ArioSolana
namespace Solana

open Checked Finset

/-- A public key: 32 bytes. -/
structure Pubkey where
  bytes : Fin (2 ^ 256)
deriving DecidableEq

instance : Fintype Pubkey :=
  Fintype.ofEquiv (Fin (2 ^ 256)) ⟨Pubkey.mk, Pubkey.bytes, fun _ => rfl, fun _ => rfl⟩

-- a key in an option is looked up, not searched for among all keys
instance (priority := high) (o : Option Pubkey) (p : Pubkey → Prop) [DecidablePred p] :
    Decidable (∀ k ∈ o, p k) :=
  match o with
  | none => .isTrue (by simp)
  | some a => decidable_of_iff (p a) (by simp)

-- numerals of keys and ids are read through these instances
instance neZeroKeys : NeZero (2 ^ 256 : ℕ) := ⟨by norm_num⟩

instance neZeroWords : NeZero (2 ^ 64 : ℕ) := ⟨by norm_num⟩

/-- The all-zero key, which is the address of the system program. -/
def Pubkey.default : Pubkey := ⟨0⟩

structure TokenAccount where
  mint : Pubkey
  owner : Pubkey
  amount : ℕ
deriving DecidableEq

structure SplTransfer where
  source : Pubkey
  destination : Pubkey
  amount : ℕ
deriving DecidableEq

inductive SplError where
  | accountNotFound
  | insufficientFunds
  | mintMismatch
  | ownerMismatch
  | overflow
  | nonEmptyAccount
  /-- the account and the receiver of its rent are one -/
  | invalidAccountData
deriving DecidableEq

/-- The token accounts of the chain, and the transfers made so far, latest first. -/
structure Tokens where
  accounts : Pubkey → Option TokenAccount
  transfers : List SplTransfer

namespace Tokens

def balance (t : Tokens) (k : Pubkey) : ℕ := (t.accounts k).elim 0 (·.amount)

/-- The mint and the owner of a token account. -/
def terms (t : Tokens) (k : Pubkey) : Option (Pubkey × Pubkey) :=
  (t.accounts k).map fun a => (a.mint, a.owner)

/-- All tokens of one mint. -/
def supply (t : Tokens) (mint : Pubkey) : ℤ :=
  ∑ k, if (t.terms k).map (·.1) = some mint then (t.balance k : ℤ) else 0

/-- The token program's `Transfer`. A transfer of an account to itself moves nothing. -/
def transfer (t : Tokens) (source destination authority : Pubkey) (amount : ℕ) :
    Except SplError Tokens := do
  let src ← okOr (t.accounts source) .accountNotFound
  let dst ← okOr (t.accounts destination) .accountNotFound
  require (amount ≤ src.amount) .insufficientFunds
  require (src.mint = dst.mint) .mintMismatch
  require (authority = src.owner) .ownerMismatch
  let log := ⟨source, destination, amount⟩ :: t.transfers
  if source = destination then
    return { t with transfers := log }
  require (dst.amount + amount < 2 ^ 64) .overflow
  return {
    accounts := Function.update
      (Function.update t.accounts source (some { src with amount := src.amount - amount }))
      destination (some { dst with amount := dst.amount + amount })
    transfers := log }

/-- The token program's `CloseAccount`. An account that holds tokens cannot be closed. -/
def closeAccount (t : Tokens) (account authority : Pubkey) : Except SplError Tokens := do
  let a ← okOr (t.accounts account) .accountNotFound
  require (a.amount = 0) .nonEmptyAccount
  require (authority = a.owner) .ownerMismatch
  return { t with accounts := Function.update t.accounts account none }

section

variable {t t' : Tokens} {source destination authority k mint : Pubkey} {amount : ℕ}

/-- What a transfer that succeeded did. -/
structure Transferred (t t' : Tokens) (source destination authority : Pubkey) (amount : ℕ) :
    Prop where
  source_exists : ∃ src, t.accounts source = some src ∧ authority = src.owner ∧
    amount ≤ src.amount
  same_mint : (t.terms source).map (·.1) = (t.terms destination).map (·.1)
  destination_exists : (t.accounts destination).isSome
  terms_eq : t'.terms = t.terms
  balance_eq : ∀ k, (t'.balance k : ℤ) = t.balance k
    + (if k = destination then (amount : ℤ) else 0) - (if k = source then (amount : ℤ) else 0)
  log_eq : t'.transfers = ⟨source, destination, amount⟩ :: t.transfers

/-- **A transfer moves exactly the amount.** -/
theorem transfer_ok (h : t.transfer source destination authority amount = .ok t') :
    Transferred t t' source destination authority amount := by
  simp only [transfer, bind_eq_ok, okOr_eq_ok, require_eq_ok, exists_const] at h
  obtain ⟨src, hsrc, dst, hdst, hle, hmint, hauth, h⟩ := h
  have hsame : (t.terms source).map (·.1) = (t.terms destination).map (·.1) := by
    simp [terms, hsrc, hdst, hmint]
  split at h
  · -- a self-transfer: source and destination cancel
    rename_i heq
    obtain rfl := pure_eq_ok.mp h
    refine ⟨⟨src, hsrc, hauth, hle⟩, hsame, by simp [hdst], rfl, fun k => ?_, rfl⟩
    subst heq
    simp [balance]
  · rename_i hne
    simp only [bind_eq_ok, require_eq_ok, exists_const, pure_eq_ok] at h
    obtain ⟨-, rfl⟩ := h
    refine ⟨⟨src, hsrc, hauth, hle⟩, hsame, by simp [hdst], ?_, fun k => ?_, rfl⟩
    · funext k
      by_cases h1 : k = destination
      · subst h1; simp [terms, hdst]
      · by_cases h2 : k = source
        · subst h2; simp [terms, h1, hsrc]
        · simp [terms, h1, h2]
    · by_cases h1 : k = destination
      · subst h1
        simp [balance, hdst, Ne.symm hne]
      · by_cases h2 : k = source
        · subst h2
          simp only [balance, h1, hsrc, Function.update_of_ne, Function.update_self, ne_eq,
            not_false_eq_true, Option.elim_some, if_false, if_true]
          omega
        · simp [balance, h1, h2]

/-- A transfer whose parties and amount are in order succeeds. -/
theorem transfer_succeeds {src dst : TokenAccount} (hsrc : t.accounts source = some src)
    (hdst : t.accounts destination = some dst) (hle : amount ≤ src.amount)
    (hmint : src.mint = dst.mint) (hfit : dst.amount + amount < 2 ^ 64) :
    ∃ t', t.transfer source destination src.owner amount = .ok t' := by
  simp only [transfer, hsrc, hdst, okOr_some, ok_bind, require_of hle, require_of hmint]
  split
  · exact ⟨_, rfl⟩
  · rw [require_of hfit]
    exact ⟨_, rfl⟩

/-- **Only an empty account can be closed.** -/
theorem closeAccount_ok :
    t.closeAccount k authority = .ok t' ↔ ∃ a, t.accounts k = some a ∧ a.amount = 0 ∧
      authority = a.owner ∧ t' = { t with accounts := Function.update t.accounts k none } := by
  simp only [closeAccount, bind_eq_ok, okOr_eq_ok, require_eq_ok, pure_eq_ok, exists_const]
  exact exists_congr fun a => and_congr_right fun _ => and_congr_right fun _ =>
    and_congr_right fun _ => eq_comm

lemma supply_of_transferred (h : Transferred t t' source destination authority amount) :
    t'.supply mint = t.supply mint := by
  unfold supply
  have hterm : ∀ k, (if (t'.terms k).map (·.1) = some mint then (t'.balance k : ℤ) else 0)
      = (if (t.terms k).map (·.1) = some mint then (t.balance k : ℤ) else 0)
        + ((if k = destination then
              (if (t.terms destination).map (·.1) = some mint then (amount : ℤ) else 0) else 0)
          - (if k = source then
              (if (t.terms source).map (·.1) = some mint then (amount : ℤ) else 0) else 0)) := by
    intro k
    rw [h.terms_eq, h.balance_eq]
    by_cases h1 : k = destination <;> by_cases h2 : k = source <;> split <;> simp_all; ring
  rw [sum_congr rfl fun k _ => hterm k, sum_add_distrib, sum_sub_distrib]
  simp [h.same_mint]

/-- An account that holds nothing counts for no supply, before and after it changes. -/
lemma supply_of_updated {o : Option TokenAccount} (h : t.balance k = 0)
    (ho : o.elim 0 (·.amount) = 0) :
    supply { t with accounts := Function.update t.accounts k o } mint = t.supply mint := by
  refine sum_congr rfl fun k' _ => ?_
  by_cases hk : k' = k
  · subst hk
    simp [balance, ho] at h ⊢
    simp [h]
  · simp [terms, balance, hk]

lemma supply_of_closed (h : t.closeAccount k authority = .ok t') :
    t'.supply mint = t.supply mint := by
  obtain ⟨a, hget, hzero, -, rfl⟩ := closeAccount_ok.mp h
  exact supply_of_updated (by simp [balance, hget, hzero]) rfl

/-- The transfer of `amount` was made, unless `amount` is zero. -/
def Moved (t t' : Tokens) (source destination authority : Pubkey) (amount : ℕ) : Prop :=
  if 0 < amount then t.transfer source destination authority amount = .ok t' else t' = t

lemma Moved.cases (h : t.Moved t' source destination authority amount) :
    Transferred t t' source destination authority amount ∧ 0 < amount ∨ t' = t ∧ amount = 0 := by
  unfold Moved at h
  split at h
  · exact .inl ⟨transfer_ok h, ‹_›⟩
  · exact .inr ⟨h, by omega⟩

lemma Moved.terms_eq (h : t.Moved t' source destination authority amount) :
    t'.terms = t.terms := by
  rcases h.cases with ⟨h, -⟩ | ⟨rfl, -⟩
  · exact h.terms_eq
  · rfl

lemma Moved.balance_eq (h : t.Moved t' source destination authority amount) (k : Pubkey) :
    (t'.balance k : ℤ) = t.balance k + (if k = destination then (amount : ℤ) else 0)
      - (if k = source then (amount : ℤ) else 0) := by
  rcases h.cases with ⟨h, -⟩ | ⟨rfl, rfl⟩
  · exact h.balance_eq k
  · simp

lemma Moved.supply_eq (h : t.Moved t' source destination authority amount) :
    t'.supply mint = t.supply mint := by
  rcases h.cases with ⟨h, -⟩ | ⟨rfl, -⟩
  · exact supply_of_transferred h
  · rfl

lemma balance_le_supply (h : (t.terms k).map (·.1) = some mint) :
    (t.balance k : ℤ) ≤ t.supply mint := by
  have := single_le_sum (f := fun k => if (t.terms k).map (·.1) = some mint
    then (t.balance k : ℤ) else 0) (s := univ) (fun i _ => by split <;> simp) (mem_univ k)
  simpa [h, supply] using this

/-- The token accounts of a list of keys. -/
def accountsOf (l : List (Pubkey × TokenAccount)) (k : Pubkey) : Option TokenAccount :=
  (l.find? (·.1 = k)).map (·.2)

lemma supply_accountsOf_le (l : List (Pubkey × TokenAccount)) (log : List SplTransfer) :
    supply ⟨accountsOf l, log⟩ mint ≤ (l.map (·.2.amount)).sum := by
  have hsum : ∀ l : List (Pubkey × TokenAccount),
      ∑ k, (((accountsOf l k).elim 0 (·.amount) : ℕ) : ℤ) ≤ (l.map (·.2.amount)).sum := by
    intro l
    induction l with
    | nil => simp [accountsOf]
    | cons x l ih =>
      have hterm : ∀ k, (((accountsOf (x :: l) k).elim 0 (·.amount) : ℕ) : ℤ)
          ≤ (if x.1 = k then (x.2.amount : ℤ) else 0)
            + ((accountsOf l k).elim 0 (·.amount) : ℕ) := by
        intro k
        by_cases hk : x.1 = k <;> simp [accountsOf, hk]
      refine (sum_le_sum fun k _ => hterm k).trans ?_
      rw [sum_add_distrib, sum_ite_eq univ x.1, if_pos (mem_univ _), List.map_cons, List.sum_cons]
      rw [Nat.cast_add]
      exact add_le_add_right ih _
  refine le_trans (sum_le_sum fun k _ => ?_) (hsum l)
  split
  · rfl
  · positivity

/-- Two accounts of one mint hold at most its supply together. -/
lemma balance_add_le_supply {k' : Pubkey} (hne : k ≠ k')
    (h : (t.terms k).map (·.1) = some mint) (h' : (t.terms k').map (·.1) = some mint) :
    (t.balance k : ℤ) + t.balance k' ≤ t.supply mint := by
  have := sum_le_univ_sum_of_nonneg (f := fun k => if (t.terms k).map (·.1) = some mint
    then (t.balance k : ℤ) else 0) (s := {k, k'}) (fun i => by split <;> simp)
  rw [sum_pair hne] at this
  simpa [h, h', supply] using this

end

end Tokens
end Solana
end ArioSolana
